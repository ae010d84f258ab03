import EthercatSimulator.Behaviour.AlikeCommands
import EthercatSimulator.FKr.VoltageRemoval

/-! Two runs of the drive that differ in the target position alone, in the modes that do not follow
it. -/

namespace EthercatSimulator.FKr

open Base Profile Diagnostics Behaviour Adapter
open FKrCmmt (framed updated)

/-- Complete frames that differ at most in the target position. -/
structure SameButTarget (p q : Bytes) : Prop where
  length : p.length = rxSize
  length' : q.length = rxSize
  before : q.take 3 = p.take 3
  after : q.drop 7 = p.drop 7

instance (p q : Bytes) : Decidable (SameButTarget p q) :=
  decidable_of_iff (p.length = rxSize ∧ q.length = rxSize ∧ q.take 3 = p.take 3 ∧ q.drop 7 = p.drop 7)
    ⟨fun ⟨h, h', hb, ha⟩ => ⟨h, h', hb, ha⟩, fun ⟨h, h', hb, ha⟩ => ⟨h, h', hb, ha⟩⟩

section

variable {F : Type} {s t : Servo F} {p q : Bytes}

theorem framed_alike (h : s.Alike t) (hpq : SameButTarget p q) (dt : F) :
    (framed s p dt).Alike (framed t q dt) := by
  have hword : q.take 2 = p.take 2 := by
    have := congrArg (List.take 2) hpq.before
    rwa [List.take_take, List.take_take] at this
  have hmode : (q.drop 2).take 1 = (p.drop 2).take 1 := by
    have := congrArg (List.drop 2) hpq.before
    rwa [List.drop_take, List.drop_take] at this
  have hrest : ∀ k, q.drop (7 + k) = p.drop (7 + k) := fun k => by
    rw [← List.drop_drop, hpq.after, List.drop_drop]
  refine ⟨⟨congrArg (fun x => { x with cycleTime := dt }) h.setting, h.homing, h.actualPosition,
    fun key hkey => ?_⟩, h.actualVelocity, h.ppActive, h.ppTargetPosition⟩
  change t.od.writeAll (FKrCmmt.commands q) key = s.od.writeAll (FKrCmmt.commands p) key
  unfold FKrCmmt.commands
  rw [hword, hmode, hpq.after, hrest 4, hrest 8, hrest 10, hrest 14]
  have hint : ∀ {s t : Servo F}, s.Near t → ∀ (key : Key) (n : Int),
      (s.write key (.int n)).Near (t.write key (.int n)) := fun h key _ => h.write key fun _ => rfl
  have hcommand := hint (hint h.toNear Key.controlword (leNat (p.take 2))) Key.modeOfOperation
    (leInt ((p.drop 2).take 1))
  have htarget := hcommand.write_shown Key.targetPosition (by decide)
    (.int (leInt ((p.drop 3).take 4))) (.int (leInt ((q.drop 3).take 4)))
  have hvelocity := hint (hint htarget Key.profileVelocity (leNat ((p.drop 7).take 4)))
    Key.targetVelocity (leInt ((p.drop 11).take 4))
  have hoffset := hint (hint (hint hvelocity Key.targetTorque (leInt ((p.drop 15).take 2)))
    Key.velocityOffset (leInt ((p.drop 17).take 4))) Key.torqueOffset (leInt ((p.drop 21).take 2))
  exact hoffset.od key hkey

variable [PyFloat F]

/-- One cycle of the drive: a frame and an update. -/
def cycle (s : Servo F) (input : Bytes × F) : Servo F :=
  (s.operate (.rxpdo input.1)).operate (.update input.2)

theorem cycle_settled (h : s.Settled) (hlen : p.length = rxSize) (dt : F) :
    (cycle s (p, dt)).Settled := by
  unfold cycle
  rw [operate_frame s hlen dt]
  exact Servo.update_settled (FKrCmmt.framed_settled h)

theorem cycle_alike (h : s.Alike t) (hs : s.Settled) (ht : t.Settled) (hpq : SameButTarget p q)
    (dt : F) (hignores : (framed s p dt).IgnoresTarget)
    (hleak : ¬ (framed s p dt).Leaks (framed t q dt)) :
    (cycle s (p, dt)).Alike (cycle t (q, dt)) := by
  unfold cycle
  rw [operate_frame s hpq.length dt, operate_frame t hpq.length' dt]
  exact (framed_alike h hpq dt).update (FKrCmmt.framed_settled hs) (FKrCmmt.framed_settled ht)
    hignores hleak

/-- Until a target leaks, the drive moves in the same way whatever the targets. -/
theorem target_influence (mode : AxisMode) (operations : Nat → Operation F) (n : Nat)
    (frames frames' : Nat → Bytes) (dt : Nat → F) (cycles : Nat)
    (hframes : ∀ k < cycles, SameButTarget (frames k) (frames' k)) :
    let start := Servo.servos mode operations n
    let servo := runOf cycle start fun k => (frames k, dt k)
    let servo' := runOf cycle start fun k => (frames' k, dt k)
    (∀ k < cycles, (framed (servo k) (frames k) (dt k)).IgnoresTarget) →
    (∀ k < cycles, ¬ (framed (servo k) (frames k) (dt k)).Leaks
      (framed (servo' k) (frames' k) (dt k))) →
    ∀ k ≤ cycles, (servo' k).actualPosition = (servo k).actualPosition ∧
      (servo' k).actualVelocity = (servo k).actualVelocity := by
  intro start servo servo' hignores hleaks k hk
  have hrun : (servo k).Settled ∧ (servo' k).Settled ∧ (servo k).Alike (servo' k) := by
    induction k with
    | zero =>
      have hstart := Servo.servos_settled mode operations n
      exact ⟨hstart, hstart, .refl _⟩
    | succ k ih =>
      obtain ⟨hs, hs', halike⟩ := ih (by omega)
      have hpq := hframes k hk
      exact ⟨cycle_settled hs hpq.length _, cycle_settled hs' hpq.length' _,
        cycle_alike halike hs hs' hpq _ (hignores k hk) (hleaks k hk)⟩
  exact ⟨hrun.2.2.actualPosition, hrun.2.2.actualVelocity⟩

end

/-- A drive enabled in profile velocity that follows a target velocity. -/
def movingFrame (target : Bytes) (controlword : UInt8) : Bytes :=
  [controlword, 0x00, 0x03] ++ target ++ List.replicate 4 0x00 ++ [0x64, 0x00, 0x00, 0x00] ++
    List.replicate 9 0x00

def movingRun (n : Nat) : Operation ExtRat :=
  if n % 2 = 1 then .update (.num (1 / 100))
  else .rxpdo (movingFrame [0x00, 0x00, 0x00, 0x00]
    (match n / 2 with | 0 => 0x06 | 1 => 0x07 | _ => 0x0f))

/-- Targets within the software limits leave such a drive alone. -/
theorem target_ignored :
    let start := Servo.servos .linear movingRun 8
    let servo (target : UInt8) := runOf cycle start fun _ =>
      (movingFrame [target, 0x00, 0x00, 0x00] 0x0f, .num (1 / 100))
    ∀ k ≤ 4, (servo 0xc8 k).actualPosition = (servo 0x64 k).actualPosition ∧
      (servo 0xc8 k).actualVelocity = (servo 0x64 k).actualVelocity :=
  target_influence .linear movingRun 8 (fun _ => movingFrame [0x64, 0x00, 0x00, 0x00] 0x0f)
    (fun _ => movingFrame [0xc8, 0x00, 0x00, 0x00] 0x0f) (fun _ => .num (1 / 100)) 4
    (fun _ _ => by decide) (by decide +kernel) (by decide +kernel)

/-- A target position far outside the software limits stops a drive that follows a velocity. -/
theorem target_stops :
    let servo := Servo.servos .linear movingRun 8
    let inside := movingFrame [0x00, 0x00, 0x00, 0x00] 0x0f
    let outside := movingFrame [0xff, 0xff, 0xff, 0x7f] 0x0f
    let dt := ExtRat.num (1 / 100)
    SameButTarget inside outside ∧ (framed servo inside dt).IgnoresTarget ∧
      (framed servo outside dt).IgnoresTarget ∧ servo.actualVelocity = .num 20 ∧
      (cycle servo (inside, dt)).actualVelocity = .num 30 ∧
      (cycle servo (outside, dt)).actualVelocity = .num 10 := by
  decide +kernel

end EthercatSimulator.FKr
