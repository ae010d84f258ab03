import EthercatSimulator.Base.Run
import EthercatSimulator.Slave.PdoTarget

/-! The main loop with the frames it routes: a slave requests a cycle only for a frame that covers its output
window, and one at most. -/

namespace EthercatSimulator.Slave

open Base Ipc

/-- What becomes of what was read from the socket: a frame is dropped, or routed, and then its answer is written
or not. -/
inductive Arrival
  | dropped
  | routed (datagrams : List Datagram) (written : Bool)

def Arrival.datagrams : Arrival → List Datagram
  | dropped => []
  | routed datagrams _ => datagrams

/-- Whatever the next step of the loop asks its surroundings for; `fmmu` is of the ESCs, one slave each. -/
structure Findings where
  failure : String
  glimpse : Glimpse
  arrival : Arrival
  fmmu : Nat → Fin 16 → Option Fmmu
  output : Bytes
  state : AlState
  mapped : Bool

/-- The process with the `pdo` of the last frame routed. -/
structure Bus where
  process : Process
  pdo : List Bool

namespace Bus

def start (fleet : Bool) (slaves : List SimulatedSlave) : Bus := ⟨.start fleet slaves, []⟩

variable (b : Bus) (x : Findings)

def ports : List OutputPort := b.process.slaves.mapIdx fun i s => ⟨x.fmmu i, s.rxSize⟩

/-- What a frame comes to, and its `pdo`.  A throw ends the process as a failed write does. -/
def frame : FrameEvent × List Bool :=
  match x.arrival with
  | .dropped => (.dropped, b.pdo)
  | .routed datagrams written =>
    match framePdo (b.ports x) datagrams with
    | .ok pdo => (.routed written, pdo)
    | .error _ => (.routed false, b.pdo)

/-- `pdo[i]` -/
def isAddressed : Bool :=
  match b.process.place with
  | .routine i => b.pdo.getD i false
  | _ => false

def surroundings : Surroundings where
  failure := x.failure
  glimpse := x.glimpse
  frame := (b.frame x).1
  routine := ⟨x.output, x.state, b.isAddressed, x.mapped⟩

def advance : Bus where
  process := b.process.advance (b.surroundings x)
  pdo := if b.process.place = .route then (b.frame x).2 else b.pdo

/-- The step routes a frame that writes to the output window of slave `i`. -/
def targets (i : Nat) : Bool :=
  b.process.place = .route && (b.ports x)[i]?.any fun s => x.arrival.datagrams.any (·.writesTo s)

def isCycle (i : Nat) (request : Nat × Json) : Bool :=
  request.1 = i && (request.2.get? "op").bind Json.string? = some "cycle"

/-- The cycles requested for slave `i`. -/
def cycles (i : Nat) : Nat := b.process.submitted.countP (isCycle i)

variable {b x} {i frames : Nat}

/-! One step. -/

/-- Between the answer to a frame and the turn of a slave that it addresses, the cycle of the frame is still due. -/
structure Within (i frames : Nat) (b : Bus) : Prop where
  le : b.cycles i ≤ frames
  due : ∀ k, b.process.place = .routine k → k ≤ i → b.pdo.getD i false = true → b.cycles i < frames

theorem Within.mono (h : Within i frames b) (n : Nat) : Within i (frames + n) b :=
  ⟨Nat.le_add_right_of_le h.le, fun k hplace hk hpdo => Nat.lt_add_right n (h.due k hplace hk hpdo)⟩

/-- A step that requests nothing and leads to no routine. -/
theorem Within.quiet (h : Within i frames b) {b' : Bus} (hsubmitted : b'.process.submitted = b.process.submitted)
    (hplace : ∀ k, b'.process.place ≠ .routine k) : Within i frames b' :=
  ⟨(congrArg (List.countP (isCycle i)) hsubmitted).trans_le h.le, fun k hk => absurd hk (hplace k)⟩

/-- A frame that is routed and answered. -/
theorem targets_of_pdo (hplace : b.process.place = .route) {datagrams : List Datagram} {written : Bool}
    (harrival : x.arrival = .routed datagrams written) {pdo : List Bool}
    (hpdo : framePdo (b.ports x) datagrams = .ok pdo) : b.targets x i = pdo.getD i false := by
  have hexact : pdo = (b.ports x).map fun s => datagrams.any (·.writesTo s) := by
    rcases framePdo_cases (b.ports x) datagrams with ⟨hok, -⟩ | ⟨⟨e, herror⟩, -⟩
    · exact Except.ok.inj (hpdo.symm.trans hok)
    · cases hpdo.symm.trans herror
  unfold targets
  rw [hexact, hplace, harrival, decide_eq_true rfl, Bool.true_and, List.getD_eq_getElem?_getD, List.getElem?_map]
  cases (b.ports x)[i]? with
  | none => rfl
  | some s => rfl

theorem frame_cases (hplace : b.process.place = .route) : (b.frame x).1 = .dropped ∨ (b.frame x).1 = .routed false ∨
    ∃ written, (b.frame x).1 = .routed written ∧ b.targets x i = (b.frame x).2.getD i false := by
  unfold frame
  cases harrival : x.arrival with
  | dropped => exact .inl rfl
  | routed datagrams written =>
    dsimp only
    cases hpdo : framePdo (b.ports x) datagrams with
    | error e => exact .inr (.inl rfl)
    | ok pdo => exact .inr (.inr ⟨written, rfl, targets_of_pdo hplace harrival hpdo⟩)

theorem op_message (p : Process) (k : Nat) (op : String) (members : List (String × Json)) :
    ((p.message k (("op", .string op) :: members)).get? "op").bind Json.string? = some op := by
  simp [Process.message, Json.get?, Json.lookup, Json.string?]

theorem submit_cycles (p : Process) (k : Nat) (op : String) (members : List (String × Json)) :
    (p.submit k (("op", .string op) :: members)).submitted.countP (isCycle i) =
      p.submitted.countP (isCycle i) + (decide (k = i) && decide (op = "cycle")).toNat := by
  have hop : isCycle i (k, p.message k (("op", .string op) :: members)) =
      (decide (k = i) && decide (op = "cycle")) := by
    unfold isCycle
    simp only [op_message, Option.some.injEq]
  unfold Process.submit
  rw [countP_concat, hop]

/-- A slave requests one cycle at most, and only where the frame addresses it. -/
theorem request_cycles (p : Process) (k : Nat) (s : SimulatedSlave) (r : Routine) :
    (p.request k s r).submitted.countP (isCycle i) ≤
      p.submitted.countP (isCycle i) + (decide (k = i) && r.addressed).toNat := by
  unfold Process.request
  split_ifs with hcycle hidle
  · have haddressed : r.addressed = true := (Bool.and_eq_true_iff.mp hcycle).2
    rw [haddressed]
    exact (submit_cycles p k "cycle" _).le
  · refine (submit_cycles p k "idle" _).le.trans (Nat.add_le_add_left ?_ _)
    rw [decide_eq_false (by decide : "idle" ≠ "cycle"), Bool.and_false]
    exact Nat.zero_le _
  · exact Nat.le_add_right _ _

/-- The routine of slave `k`: the one of slave `i` uses up the cycle that is due. -/
theorem Within.routine (h : Within i frames b) {k : Nat} (hplace : b.process.place = .routine k) {b' : Bus}
    (hpdo : b'.pdo = b.pdo) (hnext : b'.process.place = .routine (k + 1))
    (hcycles : b'.cycles i ≤ b.cycles i + (decide (k = i) && b.pdo.getD k false).toNat) : Within i frames b' := by
  by_cases hk : k = i
  · subst hk
    rw [decide_eq_true rfl, Bool.true_and] at hcycles
    refine ⟨?_, ?_⟩
    · cases hdue : b.pdo.getD k false with
      | false =>
        rw [hdue] at hcycles
        exact hcycles.trans h.le
      | true =>
        rw [hdue] at hcycles
        exact hcycles.trans (h.due k hplace le_rfl hdue)
    · intro k' hk' hle
      cases hnext.symm.trans hk'
      exact absurd hle (Nat.not_succ_le_self _)
  · rw [decide_eq_false hk, Bool.false_and] at hcycles
    refine ⟨hcycles.trans h.le, ?_⟩
    intro k' hk' hle hdue
    cases hnext.symm.trans hk'
    exact hcycles.trans_lt (h.due k hplace (Nat.le_of_succ_le hle) (hpdo ▸ hdue))

/-- A routed frame: where it addresses the slave, it is one frame more. -/
theorem Within.routed (h : Within i frames b) {b' : Bus} (hsubmitted : b'.process.submitted = b.process.submitted)
    {target : Bool} (htarget : b'.pdo.getD i false = target) : Within i (frames + target.toNat) b' := by
  have hcycles : b'.cycles i = b.cycles i := congrArg (List.countP (isCycle i)) hsubmitted
  refine ⟨hcycles.trans_le (Nat.le_add_right_of_le h.le), ?_⟩
  intro k _ _ hdue
  rw [hcycles, ← htarget, hdue]
  exact Nat.lt_succ_of_le h.le

theorem Within.advance (h : Within i frames b) (x : Findings) :
    Within i (frames + (b.targets x i).toNat) (b.advance x) := by
  unfold Bus.advance Process.advance
  cases hplace : b.process.place with
  | pump second => exact (h.mono _).quiet rfl nofun
  | refresh second j =>
    dsimp only
    cases b.process.slaves[j]? with
    | some s => exact (h.mono _).quiet rfl nofun
    | none =>
      cases second with
      | false => exact (h.mono _).quiet rfl nofun
      | true => exact (h.mono _).quiet rfl nofun
  | read => exact (h.mono _).quiet rfl nofun
  | route =>
    have hevent : (b.surroundings x).frame = (b.frame x).1 := rfl
    rw [if_pos rfl]
    dsimp only
    rcases frame_cases (i := i) hplace with hdropped | hfailed | ⟨written, hrouted, htarget⟩
    · rw [hevent, hdropped]
      exact (h.mono _).quiet rfl nofun
    · rw [hevent, hfailed]
      exact (h.mono _).quiet rfl nofun
    · rw [hevent, hrouted]
      refine h.routed ?_ htarget.symm
      rfl
  | routine k =>
    dsimp only
    cases b.process.slaves[k]? with
    | none => exact (h.mono _).quiet rfl nofun
    | some s =>
      have haddressed : (b.surroundings x).routine.addressed = b.pdo.getD k false := by
        simp only [surroundings, isAddressed, hplace]
      have hpdo : (if Place.routine k = .route then (b.frame x).2 else b.pdo) = b.pdo := if_neg nofun
      rw [hpdo]
      dsimp only
      split_ifs
      · exact (h.mono _).quiet rfl nofun
      · refine (h.mono _).routine hplace ?_ ?_ ((request_cycles b.process k s _).trans_eq ?_)
        · rfl
        · rfl
        · rw [haddressed]
          rfl
  | ended => exact (h.mono _).quiet rfl fun k hk => nomatch hplace.symm.trans hk

/-! Runs. -/

theorem process_run (fleet : Bool) (slaves : List SimulatedSlave) (inputs : Nat → Findings) (n : Nat) :
    (runOf advance (start fleet slaves) inputs n).process = runOf Process.advance (.start fleet slaves)
      (fun k => (runOf advance (start fleet slaves) inputs k).surroundings (inputs k)) n := by
  induction n with
  | zero => rfl
  | succ n ih => exact congrArg (Process.advance · _) ih

end Bus

/-- However frames, futures and states come, a slave requests no more cycles than frames were routed that write
to its output window and are acknowledged. -/
theorem cycles_within_frames (fleet : Bool) (slaves : List SimulatedSlave) (inputs : Nat → Findings) (i n : Nat) :
    (runOf Bus.advance (.start fleet slaves) inputs n).cycles i ≤
      (List.range n).countP fun k => (runOf Bus.advance (.start fleet slaves) inputs k).targets (inputs k) i := by
  have hstart : Bus.Within i 0 (.start fleet slaves) := ⟨Nat.zero_le _, nofun⟩
  exact (runOf.counted Bus.advance _ inputs (Bus.targets · · i) (Bus.Within i) hstart
    (fun _ _ x h => h.advance x) n).le

end EthercatSimulator.Slave
