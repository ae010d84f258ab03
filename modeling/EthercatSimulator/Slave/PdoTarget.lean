import EthercatSimulator.Base.Exec
import EthercatSimulator.Slave.MainLoop

/-! Which slaves a frame addresses: those whose output window an acknowledged logical write covers. -/

namespace EthercatSimulator.Slave

open Base

inductive Datagram.Command
  | lrw | lwr | other
  deriving DecidableEq

/-- A datagram as the slaves leave it.  The length is one of eleven bits, which fit here. -/
structure Datagram where
  command : Datagram.Command
  address : UInt32
  len : UInt16
  workingCounter : UInt16

/-- `fmmu::Register` -/
structure Fmmu where
  logicalAddress : UInt32
  length : UInt16
  logicalStartBit : UInt8
  logicalStopBit : UInt8
  physicalAddress : UInt16
  physicalStartBit : UInt8
  type : UInt8
  activate : UInt8

/-- The FMMUs of a slave, `none` where the ESC does not give one, and the size of its RxPDO. -/
structure OutputPort where
  fmmu : Fin 16 → Option Fmmu
  rxSize : Nat

namespace Fmmu

variable (map : Fmmu)

def isOutput : Bool := map.activate ≠ 0 && map.type = 2 && map.physicalAddress = 0x1800

/-- The layout of the contract. -/
def isAligned (rxSize : Nat) : Bool :=
  map.length.toNat = rxSize && map.logicalStartBit = 0 && map.logicalStopBit = 7 && map.physicalStartBit = 0

/-- The write covers the window. -/
def isCovered (d : Datagram) : Bool :=
  let start := d.address.toUInt64
  let stop := start + d.len.toUInt64
  start ≤ map.logicalAddress.toUInt64 && map.logicalAddress.toUInt64 + map.length.toUInt64 ≤ stop

/-- No sum of the check leaves its 64 bits. -/
theorem isCovered_iff (d : Datagram) : map.isCovered d = true ↔
    d.address.toNat ≤ map.logicalAddress.toNat ∧
      map.logicalAddress.toNat + map.length.toNat ≤ d.address.toNat + d.len.toNat := by
  have haddress := d.address.toNat_lt
  have hlen := d.len.toNat_lt
  have hlogical := map.logicalAddress.toNat_lt
  have hlength := map.length.toNat_lt
  unfold isCovered
  simp only [Bool.and_eq_true, decide_eq_true_eq, UInt64.le_iff_toNat_le, UInt64.toNat_add, UInt32.toNat_toUInt64,
    UInt16.toNat_toUInt64]
  rw [Nat.mod_eq_of_lt (by omega), Nat.mod_eq_of_lt (by omega)]

end Fmmu

/-- `targetsOutput` from one register on. -/
def targetsFrom (d : Datagram) (rxSize : Nat) : List (Option Fmmu) → Except String Bool
  | [] => .ok false
  | none :: _ => .error "Cannot inspect output FMMU"
  | some map :: rest =>
    if !map.isOutput then targetsFrom d rxSize rest
    else if !map.isAligned rxSize then .error "Unsupported output FMMU layout"
    else if map.isCovered d then .ok true
    else targetsFrom d rxSize rest

namespace OutputPort

variable (s : OutputPort)

def registers : List (Option Fmmu) := List.ofFn s.fmmu

def targetsOutput (d : Datagram) : Except String Bool := targetsFrom d s.rxSize s.registers

end OutputPort

/-- Only acknowledged logical writes advance the model. -/
def Datagram.isWrite (d : Datagram) : Bool := d.workingCounter ≠ 0 && (d.command = .lrw || d.command = .lwr)

/-- A slave and its entry of `pdo`. -/
abbrev Marked := OutputPort × Bool

def markOne (d : Datagram) (x : Marked) : Except String Marked :=
  if x.2 then .ok x else (x.1, ·) <$> x.1.targetsOutput d

/-- The loop over the datagrams of a frame. -/
def markAll : List Datagram → List Marked → Except String (List Marked)
  | [], marked => .ok marked
  | d :: rest, marked =>
    if d.isWrite then do
      let marked ← marked.mapM (markOne d)
      markAll rest marked
    else markAll rest marked

/-- `pdo` of a frame. -/
def framePdo (ports : List OutputPort) (datagrams : List Datagram) : Except String (List Bool) :=
  List.map Prod.snd <$> markAll datagrams (ports.map (·, false))

/-! One register. -/

def hits (d : Datagram) (rxSize : Nat) : Option Fmmu → Bool
  | none => false
  | some map => map.isOutput && map.isAligned rxSize && map.isCovered d

/-- A register that ends the process. -/
def unfit (rxSize : Nat) : Option Fmmu → Bool
  | none => true
  | some map => map.isOutput && !map.isAligned rxSize

variable {d : Datagram} {rxSize : Nat}

/-- The register at which the search ends. -/
def decides (d : Datagram) (rxSize : Nat) (r : Option Fmmu) : Bool := hits d rxSize r || unfit rxSize r

theorem unfit_of_hits {r : Option Fmmu} (h : hits d rxSize r = true) : unfit rxSize r = false := by
  cases r with
  | none => cases h
  | some map =>
    have haligned : map.isAligned rxSize = true := by
      unfold hits at h
      rw [Bool.and_eq_true, Bool.and_eq_true] at h
      exact h.1.2
    simp [unfit, haligned]

/-- The first register that is covered or unfit decides. -/
inductive Searched (d : Datagram) (rxSize : Nat) (registers : List (Option Fmmu)) : Except String Bool → Prop
  | missed (h : registers.find? (decides d rxSize) = none) : Searched d rxSize registers (.ok false)
  | target (r : Option Fmmu) (h : registers.find? (decides d rxSize) = some r) (hit : hits d rxSize r = true) :
    Searched d rxSize registers (.ok true)
  | stopped (r : Option Fmmu) (e : String) (h : registers.find? (decides d rxSize) = some r)
    (bad : unfit rxSize r = true) : Searched d rxSize registers (.error e)

theorem Searched.cons {r : Option Fmmu} {registers : List (Option Fmmu)} (h : decides d rxSize r = false)
    {result : Except String Bool} (hf : Searched d rxSize registers result) : Searched d rxSize (r :: registers) result := by
  have hskip : (r :: registers).find? (decides d rxSize) = registers.find? (decides d rxSize) := by
    rw [List.find?_cons, h]
  cases hf with
  | missed h => exact .missed (hskip.trans h)
  | target r h hit => exact .target r (hskip.trans h) hit
  | stopped r e h bad => exact .stopped r e (hskip.trans h) bad

theorem targetsFrom_searched (d : Datagram) (rxSize : Nat) (registers : List (Option Fmmu)) :
    Searched d rxSize registers (targetsFrom d rxSize registers) := by
  induction registers with
  | nil => exact .missed rfl
  | cons r rest ih =>
    have hfirst (h : decides d rxSize r = true) : (r :: rest).find? (decides d rxSize) = some r :=
      List.find?_cons_of_pos h
    cases r with
    | none => exact .stopped none _ (hfirst rfl) rfl
    | some map =>
      unfold targetsFrom
      cases houtput : map.isOutput with
      | false => exact ih.cons (by simp [decides, unfit, hits, houtput])
      | true =>
        cases haligned : map.isAligned rxSize with
        | false =>
          have hbad : unfit rxSize (some map) = true := by simp [unfit, houtput, haligned]
          exact .stopped _ _ (hfirst (by rw [decides, hbad, Bool.or_true])) hbad
        | true =>
          cases hcovered : map.isCovered d with
          | true =>
            have hhit : hits d rxSize (some map) = true := by simp [hits, houtput, haligned, hcovered]
            exact .target _ (hfirst (by rw [decides, hhit, Bool.true_or])) hhit
          | false => exact ih.cons (by simp [decides, unfit, hits, haligned, hcovered])

/-! One slave. -/

namespace OutputPort

variable {s : OutputPort}

def isTarget (s : OutputPort) (d : Datagram) : Bool := s.registers.any (hits d s.rxSize)

/-- The register at which the search of the slave ends is unfit. -/
def isStopped (s : OutputPort) (d : Datagram) : Bool :=
  (s.registers.find? (decides d s.rxSize)).any (unfit s.rxSize)

/-- No register of the slave ends the process. -/
def isFit (s : OutputPort) : Bool := s.registers.all (!unfit s.rxSize ·)

theorem targetsOutput_cases (s : OutputPort) (d : Datagram) :
    (s.targetsOutput d = .ok (s.isTarget d) ∧ (s.isTarget d = true ∨ s.isFit = true) ∧ s.isStopped d = false) ∨
      (∃ e, s.targetsOutput d = .error e) ∧ s.isStopped d = true := by
  unfold targetsOutput
  have hfound := targetsFrom_searched d s.rxSize s.registers
  generalize targetsFrom d s.rxSize s.registers = result at hfound
  cases hfound with
  | missed h =>
    have hmissed (r : Option Fmmu) (hr : r ∈ s.registers) :
        hits d s.rxSize r = false ∧ unfit s.rxSize r = false := by
      simpa [decides] using List.find?_eq_none.mp h r hr
    have htarget : s.isTarget d = false := List.any_eq_false.mpr fun r hr => by simp [(hmissed r hr).1]
    have hfit : s.isFit = true := List.all_eq_true.mpr fun r hr => by simp [(hmissed r hr).2]
    exact .inl ⟨by rw [htarget], .inr hfit, by rw [isStopped, h, Option.any_none]⟩
  | target r h hit =>
    have htarget : s.isTarget d = true := List.any_eq_true.mpr ⟨r, List.mem_of_find?_eq_some h, hit⟩
    exact .inl ⟨by rw [htarget], .inl htarget, by rw [isStopped, h, Option.any_some, unfit_of_hits hit]⟩
  | stopped r e h bad => exact .inr ⟨⟨e, rfl⟩, by rw [isStopped, h, Option.any_some, bad]⟩

theorem isStopped_of_isFit (h : s.isFit = true) (d : Datagram) : s.isStopped d = false := by
  unfold isStopped
  cases hfind : s.registers.find? (decides d s.rxSize) with
  | none => rfl
  | some r =>
    have hr := List.all_eq_true.mp h r (List.mem_of_find?_eq_some hfind)
    rw [Option.any_some, ← Bool.not_eq_true', hr]

theorem targetsOutput_of_isFit (h : s.isFit = true) (d : Datagram) : s.targetsOutput d = .ok (s.isTarget d) := by
  rcases s.targetsOutput_cases d with ⟨hok, -⟩ | ⟨-, hstopped⟩
  · exact hok
  · rw [isStopped_of_isFit h] at hstopped
    cases hstopped

end OutputPort

/-! A frame. -/

/-- After the first write, no register of the slave can end the process. -/
def Marked.Settled (x : Marked) : Prop := x.2 = true ∨ x.1.isFit = true

def Datagram.writesTo (d : Datagram) (s : OutputPort) : Bool := d.isWrite && s.isTarget d

theorem markOne_settled {x : Marked} (h : Marked.Settled x) (d : Datagram) :
    markOne d x = .ok (x.1, x.2 || x.1.isTarget d) := by
  unfold markOne
  obtain ⟨s, marked⟩ := x
  cases marked with
  | true => rfl
  | false =>
    have hfit : s.isFit = true := h.resolve_left nofun
    rw [if_neg nofun, OutputPort.targetsOutput_of_isFit hfit]
    rfl

theorem markAll_settled (datagrams : List Datagram) (marked : List Marked) (h : ∀ x ∈ marked, Marked.Settled x) :
    markAll datagrams marked = .ok (marked.map fun x => (x.1, x.2 || datagrams.any (·.writesTo x.1))) := by
  induction datagrams generalizing marked with
  | nil => simp [markAll]
  | cons d rest ih =>
    unfold markAll
    cases hwrite : d.isWrite with
    | false =>
      rw [if_neg nofun, ih marked h]
      simp [Datagram.writesTo, hwrite]
    | true =>
      have hmark : marked.mapM (markOne d) = .ok (marked.map fun x => (x.1, x.2 || x.1.isTarget d)) :=
        mapM_ok.mpr (List.forall₂_map_right_iff.mpr
          (List.forall₂_same.mpr fun x hx => markOne_settled (h x hx) d))
      have hkept : ∀ y ∈ marked.map (fun x => (x.1, x.2 || x.1.isTarget d)), Marked.Settled y := by
        intro y hy
        obtain ⟨x, hx, rfl⟩ := List.mem_map.mp hy
        exact (h x hx).imp_left fun hx => by rw [hx, Bool.true_or]
      rw [if_pos rfl, hmark]
      refine (ih _ hkept).trans ?_
      simp [Datagram.writesTo, hwrite, Bool.or_assoc]

/-- The first write of the frame meets a slave that ends the process. -/
def isStopped (ports : List OutputPort) (datagrams : List Datagram) : Bool :=
  (datagrams.find? Datagram.isWrite).any fun d => ports.any (·.isStopped d)

theorem isStopped_skip {d : Datagram} (h : d.isWrite = false) (ports : List OutputPort) (rest : List Datagram) :
    isStopped ports (d :: rest) = isStopped ports rest := by
  unfold isStopped
  rw [List.find?_cons, h]

theorem isStopped_write {d : Datagram} (h : d.isWrite = true) (ports : List OutputPort) (rest : List Datagram) :
    isStopped ports (d :: rest) = ports.any (·.isStopped d) := by
  unfold isStopped
  rw [List.find?_cons, h, Option.any_some]

theorem markOne_false (d : Datagram) (s : OutputPort) : markOne d (s, false) = (s, ·) <$> s.targetsOutput d := rfl

/-- The first write that no slave stops settles every slave. -/
theorem markAll_write {d : Datagram} (hwrite : d.isWrite = true) {ports : List OutputPort}
    (h : ports.any (·.isStopped d) = false) (rest : List Datagram) :
    markAll (d :: rest) (ports.map (·, false)) = .ok (ports.map fun s => (s, (d :: rest).any (·.writesTo s))) := by
  have hone (s : OutputPort) (hs : s ∈ ports) :
      markOne d (s, false) = .ok (s, s.isTarget d) ∧ Marked.Settled (s, s.isTarget d) := by
    rcases s.targetsOutput_cases d with ⟨hok, hsettled, -⟩ | ⟨-, hstopped⟩
    · exact ⟨by rw [markOne_false, hok]; rfl, hsettled⟩
    · exact absurd hstopped (by simpa using List.any_eq_false.mp h s hs)
  have hmark : (ports.map (·, false)).mapM (markOne d) = .ok (ports.map fun s => (s, s.isTarget d)) :=
    mapM_ok.mpr (List.forall₂_map_left_iff.mpr (List.forall₂_map_right_iff.mpr
      (List.forall₂_same.mpr fun s hs => (hone s hs).1)))
  have hsettled : ∀ x ∈ ports.map (fun s => (s, s.isTarget d)), Marked.Settled x := by
    intro x hx
    obtain ⟨s, hs, rfl⟩ := List.mem_map.mp hx
    exact (hone s hs).2
  unfold markAll
  rw [if_pos hwrite, hmark]
  refine (markAll_settled rest _ hsettled).trans ?_
  simp [Datagram.writesTo, hwrite]

theorem markAll_stopped {d : Datagram} (hwrite : d.isWrite = true) {ports : List OutputPort}
    (h : ports.any (·.isStopped d) = true) (rest : List Datagram) :
    ∃ e, markAll (d :: rest) (ports.map (·, false)) = .error e := by
  obtain ⟨s, hs, hstopped⟩ := List.any_eq_true.mp h
  unfold markAll
  rw [if_pos hwrite]
  cases hmark : (ports.map (·, false)).mapM (markOne d) with
  | error e => exact ⟨e, rfl⟩
  | ok marked =>
    obtain ⟨x, -, hx⟩ := mem_of_mapM hmark (List.mem_map_of_mem hs)
    rcases s.targetsOutput_cases d with ⟨-, -, hnot⟩ | ⟨⟨e, herror⟩, -⟩
    · rw [hstopped] at hnot
      cases hnot
    · rw [markOne_false, herror] at hx
      cases hx

theorem framePdo_cases (ports : List OutputPort) (datagrams : List Datagram) :
    (framePdo ports datagrams = .ok (ports.map fun s => datagrams.any (·.writesTo s)) ∧
      isStopped ports datagrams = false) ∨
    (∃ e, framePdo ports datagrams = .error e) ∧ isStopped ports datagrams = true := by
  unfold framePdo
  induction datagrams with
  | nil => exact .inl ⟨congrArg Except.ok (List.map_map ..), rfl⟩
  | cons d rest ih =>
    cases hwrite : d.isWrite with
    | false =>
      unfold markAll
      rw [if_neg (by rw [hwrite]; nofun), isStopped_skip hwrite]
      simpa [Datagram.writesTo, hwrite] using ih
    | true =>
      rw [isStopped_write hwrite]
      cases hstopped : ports.any (·.isStopped d) with
      | false =>
        rw [markAll_write hwrite hstopped]
        exact .inl ⟨congrArg Except.ok (List.map_map ..), rfl⟩
      | true =>
        obtain ⟨e, he⟩ := markAll_stopped hwrite hstopped rest
        rw [he]
        exact .inr ⟨⟨e, rfl⟩, rfl⟩

/-- A frame addresses the slaves whose output window an acknowledged logical write of it covers; whether it ends
the process is up to the first such write alone. -/
theorem framePdo_exact (ports : List OutputPort) (datagrams : List Datagram) :
    (framePdo ports datagrams = .ok (ports.map fun s => datagrams.any fun d =>
        d.isWrite && s.registers.any (hits d s.rxSize)) ∨ ∃ e, framePdo ports datagrams = .error e) ∧
      ((∃ e, framePdo ports datagrams = .error e) ↔
        ∃ d, datagrams.find? Datagram.isWrite = some d ∧ ∃ s ∈ ports, ∃ r,
          s.registers.find? (fun r => hits d s.rxSize r || unfit s.rxSize r) = some r ∧ unfit s.rxSize r = true) := by
  have hiff : isStopped ports datagrams = true ↔
      ∃ d, datagrams.find? Datagram.isWrite = some d ∧ ∃ s ∈ ports, ∃ r,
        s.registers.find? (fun r => hits d s.rxSize r || unfit s.rxSize r) = some r ∧ unfit s.rxSize r = true := by
    unfold isStopped OutputPort.isStopped decides
    simp only [Option.any_eq_true, List.any_eq_true]
  rw [← hiff]
  rcases framePdo_cases ports datagrams with ⟨hok, hnot⟩ | ⟨herror, hstopped⟩
  · refine ⟨.inl hok, ?_⟩
    rw [hok, hnot]
    exact iff_of_false nofun nofun
  · exact ⟨.inr herror, iff_of_true herror hstopped⟩

/-- Two windows of eight bytes side by side: a write of the second is none of the first. -/
example : framePdo
    [⟨fun _ => some ⟨0x1000, 8, 0, 7, 0x1800, 0, 2, 1⟩, 8⟩,
      ⟨fun _ => some ⟨0x1008, 8, 0, 7, 0x1800, 0, 2, 1⟩, 8⟩]
    [⟨.lwr, 0x1008, 8, 1⟩] = .ok [false, true] := by
  rfl

end EthercatSimulator.Slave
