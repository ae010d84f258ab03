import EthercatSimulator.Profile.VirtualOd

/-! The process image and SDO access of any configuration show the same values. -/

namespace EthercatSimulator.Profile

open Base

variable {F : Type} [PyFloat F] (py : TextConversion F)

/-! Numeric names. -/

theorem normalizeOdDataType_name (t : DataType) : normalizeOdDataType t.name = t.name := by
  cases t <;> decide

theorem format_name (t : DataType) : dataTypeFormats.lookup t.name = some (.numeric t) := by
  cases t <;> rfl

theorem encodeNamed_name (t : DataType) (v : Content F) (size : Option Nat) :
    encodeNamed py t.name v size = packFormat py (.numeric t) v := by
  have harray : isByteArrayType t.name = false := by cases t <;> decide
  have hstring : isIn "string" t.name = false := by cases t <;> decide
  unfold encodeNamed
  simp only [normalizeOdDataType_name, harray, hstring, format_name, Bool.false_eq_true, if_false]

omit [PyFloat F] in
theorem decodeNamed_name (t : DataType) (payload : Bytes) :
    (decodeNamed t.name payload : Except Exc (Content F)) = Content.number <$> decodeOdValue t payload := by
  have harray : isByteArrayType t.name = false := by cases t <;> decide
  have hstring : isIn "string" t.name = false := by cases t <;> decide
  unfold decodeNamed
  simp only [normalizeOdDataType_name, harray, hstring, format_name, Bool.false_eq_true, if_false]
  rfl

theorem packFormat_int {t : DataType} (ht : t ≠ .float32) (v : Content F) :
    packFormat py (.numeric t) v = v.toInt py >>= packInt t := by
  cases t <;> first | contradiction | rfl

/-- On numbers the named codec is the numeric one. -/
theorem packFormat_number (t : DataType) (v : Value F) :
    packFormat py (.numeric t) (.number v) = encodeOdValue t v := by
  by_cases ht : t = .float32
  · subst ht
    rfl
  · rw [encodeOdValue_int ht, packFormat_int py ht]
    rfl

theorem length_packFormat {t : DataType} {v : Content F} {raw : Bytes}
    (h : packFormat py (.numeric t) v = .ok raw) : raw.length = t.size := by
  by_cases ht : t = .float32
  · subst ht
    cases v with
    | number v => exact length_of_encode h
    | text s => cases h
    | bytes b => cases h
  · rw [packFormat_int py ht] at h
    cases hn : v.toInt py with
    | error e =>
      rw [hn] at h
      cases h
    | ok n =>
      rw [hn] at h
      rw [(packInt_ok h).2.2, length_leBytesInt]

/-! Configurations. -/

namespace PdoEntry

variable (e : PdoEntry F)

def bytes : Nat := e.byteLength.toOption.getD 0

structure IsPadding : Prop where
  index : e.index = 0
  bits : ∃ n, e.bitLength = .ok n

structure IsNumeric (t : DataType) : Prop where
  index : e.index ≠ 0
  field : e.field ≠ none
  dataType : e.dataType = t.name

def Shaped : Prop := e.IsPadding ∨ ∃ t, e.IsNumeric t

variable {e}

omit [PyFloat F] in
theorem IsNumeric.bitLength {t : DataType} (h : e.IsNumeric t) : e.bitLength = .ok (t.size * 8) := by
  unfold PdoEntry.bitLength
  rw [h.dataType]
  cases t <;> rfl

omit [PyFloat F] in
theorem IsNumeric.bytes {t : DataType} (h : e.IsNumeric t) : e.bytes = t.size := by
  unfold PdoEntry.bytes byteLength
  rw [h.bitLength]
  exact Nat.mul_div_cancel _ (by decide)

omit [PyFloat F] in
theorem Shaped.byteLength (h : e.Shaped) : e.byteLength = .ok e.bytes := by
  obtain ⟨n, hn⟩ : ∃ n, e.bitLength = .ok n := by
    rcases h with h | ⟨t, h⟩
    · exact h.bits
    · exact ⟨_, h.bitLength⟩
  unfold PdoEntry.bytes PdoEntry.byteLength
  rw [hn]
  rfl

end PdoEntry

/-- Numeric objects with a field and distinct addresses, and padding. -/
structure PdoConfiguration (F : Type) where
  rx : List (PdoEntry F)
  tx : List (PdoEntry F)
  shaped : ∀ e ∈ rx ++ tx, e.Shaped
  distinct : (((rx ++ tx).filter (·.index ≠ 0)).map PdoEntry.key).Nodup

/-- The end of `ConfiguredObjectDictionary.__init__`. -/
def PdoConfiguration.overlaid (c : PdoConfiguration F) (od : VirtualOd F) : Except Exc (VirtualOd F) := do
  let od ← overlayPdo .rxpdo c.rx od
  overlayPdo .txpdo c.tx od

def byteSize (entries : List (PdoEntry F)) : Nat := (entries.map PdoEntry.bytes).sum

/-- The part of an image that each entry has. -/
def slices (image : Bytes) : List (PdoEntry F) → List (PdoEntry F × Bytes)
  | [] => []
  | e :: rest => (e, image.take e.bytes) :: slices (image.drop e.bytes) rest

/-! Overlays. -/

/-- The entry is in the dictionary, with the data type it has in the configuration. -/
def PdoEntry.DefinedIn (e : PdoEntry F) (od : VirtualOd F) : Prop :=
  ∃ entry, od e.key = some entry ∧ entry.definition.dataType = e.dataType

def mappedKeys (entries : List (PdoEntry F)) : List Key := (entries.filter (·.index ≠ 0)).map PdoEntry.key

omit [PyFloat F] in
theorem mappedKeys_cons (e : PdoEntry F) (rest : List (PdoEntry F)) :
    mappedKeys (e :: rest) = if e.index = 0 then mappedKeys rest else e.key :: mappedKeys rest := by
  unfold mappedKeys
  by_cases h : e.index = 0 <;> simp [h]

omit [PyFloat F] in
theorem mem_mappedKeys {e : PdoEntry F} {entries : List (PdoEntry F)} (he : e ∈ entries)
    (h : e.index ≠ 0) : e.key ∈ mappedKeys entries :=
  List.mem_map_of_mem (List.mem_filter.mpr ⟨he, decide_eq_true h⟩)

omit [PyFloat F] in
theorem overlay_other (od : VirtualOd F) {key key' : Key} (c : Definitions F) (h : key' ≠ key) :
    od.overlay key c key' = od key' := by
  unfold VirtualOd.overlay VirtualOd.define
  cases od key <;> exact Function.update_of_ne h _ _

omit [PyFloat F] in
theorem overlay_defined (od : VirtualOd F) {t : DataType} {e : PdoEntry F} (h : e.IsNumeric t)
    {c : Definitions F} (hc : c.dataType = e.dataType) : e.DefinedIn (od.overlay e.key c) := by
  have hname : supplied c.dataType = fun _ => e.dataType := by
    funext current
    unfold supplied
    rw [hc, h.dataType, if_neg (by cases t <;> decide)]
  unfold VirtualOd.overlay VirtualOd.define PdoEntry.DefinedIn
  cases od e.key with
  | none => exact ⟨_, Function.update_self _ _ _, hc⟩
  | some current => exact ⟨_, Function.update_self _ _ _, congrFun hname _⟩

omit [PyFloat F] in
/-- The overlay defines its entries and touches no other address. -/
theorem overlayPdo_spec (direction : Direction) {entries : List (PdoEntry F)}
    (hshaped : ∀ e ∈ entries, e.Shaped) (hnodup : (mappedKeys entries).Nodup) (od : VirtualOd F) :
    ∃ od', overlayPdo direction entries od = .ok od' ∧
      (∀ e ∈ entries, e.index ≠ 0 → e.DefinedIn od') ∧
        ∀ key, key ∉ mappedKeys entries → od' key = od key := by
  induction entries generalizing od with
  | nil => exact ⟨od, rfl, nofun, fun _ _ => rfl⟩
  | cons e rest ih =>
    have hrest : ∀ e ∈ rest, e.Shaped := fun e he => hshaped e (List.mem_cons_of_mem _ he)
    rw [mappedKeys_cons] at hnodup
    rw [overlayPdo]
    simp only [mappedKeys_cons]
    by_cases hindex : e.index = 0
    · rw [if_pos hindex] at hnodup
      obtain ⟨od', hrun, hdefined, hother⟩ := ih hrest hnodup od
      simp only [hindex, if_true]
      refine ⟨od', hrun, fun e' he' h' => ?_, hother⟩
      rcases List.mem_cons.mp he' with rfl | he'
      · exact absurd hindex h'
      · exact hdefined e' he' h'
    · obtain ⟨t, ht⟩ := (hshaped e List.mem_cons_self).resolve_left fun h => hindex h.index
      rw [if_neg hindex, List.nodup_cons] at hnodup
      simp only [hindex, if_false, ht.bitLength]
      obtain ⟨od', hrun, hdefined, hother⟩ := ih hrest hnodup.2 (od.overlay e.key {
        name := e.name, dataType := e.dataType, bitSize := t.size * 8
        default := some (.number e.default), role := e.field, rxpdo := direction = .rxpdo
        txpdo := direction = .txpdo })
      refine ⟨od', hrun, fun e' he' h' => ?_, fun key hkey => ?_⟩
      · rcases List.mem_cons.mp he' with rfl | he'
        · obtain ⟨entry, hentry, htype⟩ := overlay_defined od ht (c := {
            name := e'.name, dataType := e'.dataType, bitSize := t.size * 8
            default := some (.number e'.default), role := e'.field, rxpdo := direction = .rxpdo
            txpdo := direction = .txpdo }) rfl
          exact ⟨entry, (hother _ hnodup.1).trans hentry, htype⟩
        · exact hdefined e' he' h'
      · rw [List.mem_cons, not_or] at hkey
        exact (hother key hkey.2).trans (overlay_other od _ hkey.1)

/-! Received images. -/

omit [PyFloat F] in
theorem rxpdoEntry_numeric {od : VirtualOd F} {e : PdoEntry F} {t : DataType} (h : e.IsNumeric t)
    (hdefined : e.DefinedIn od) {raw : Bytes} (hraw : raw.length = t.size) :
    ∃ entry v, od e.key = some entry ∧ entry.definition.dataType = t.name ∧ decodeOdValue t raw = .ok v ∧
      od.rxpdoEntry e raw =
        .ok (Function.update od e.key (some { entry with value := .number v })) := by
  obtain ⟨entry, hentry, htype⟩ := hdefined
  obtain ⟨v, hv⟩ := decodeOdValue_ok (F := F) hraw
  refine ⟨entry, v, hentry, htype.trans h.dataType, hv, ?_⟩
  unfold VirtualOd.rxpdoEntry
  rw [if_neg (fun hskip => hskip.elim h.index h.field), h.dataType, decodeNamed_name, hv]
  change od.write e.key (.number v) = _
  unfold VirtualOd.write
  rw [hentry]

omit [PyFloat F] in
theorem rxpdoFrom_cons {payload : Bytes} {e : PdoEntry F} {rest : List (PdoEntry F)} {offset : Nat}
    {od od' : VirtualOd F} (hshaped : e.Shaped) (hlen : offset + e.bytes ≤ payload.length)
    (hrun : od.rxpdoEntry e ((payload.drop offset).take e.bytes) = .ok od') :
    VirtualOd.rxpdoFrom payload (e :: rest) offset od =
      VirtualOd.rxpdoFrom payload rest (offset + e.bytes) od' := by
  rw [VirtualOd.rxpdoFrom, hshaped.byteLength]
  change (Exec.require (offset + e.bytes ≤ payload.length) _ >>= fun _ => _) od = _
  unfold Exec.require
  rw [if_pos hlen]
  change (Exec.ofExcept (od.rxpdoEntry e ((payload.drop offset).take e.bytes)) >>= fun _ => _) od = _
  rw [hrun]
  rfl

theorem readSdo_number {od : VirtualOd F} {key : Key} {entry : VirtualOdEntry F} {t : DataType} {v : Value F}
    (hentry : od key = some entry) (htype : entry.definition.dataType = t.name)
    (hvalue : entry.value = .number v) (size : Nat) :
    od.readSdo py key size = encodeOdValue t v := by
  unfold VirtualOd.readSdo
  rw [hentry]
  dsimp only
  rw [htype, hvalue, encodeNamed_name, packFormat_number]

/-- Every entry of a received image is then read as it was received. -/
theorem rxpdoFrom_spec {entries : List (PdoEntry F)} (hshaped : ∀ e ∈ entries, e.Shaped)
    (hnodup : (mappedKeys entries).Nodup) {payload : Bytes} {offset : Nat}
    (hlen : offset + byteSize entries ≤ payload.length) {od : VirtualOd F}
    (hdefined : ∀ e ∈ entries, e.index ≠ 0 → e.DefinedIn od) :
    ∃ od', VirtualOd.rxpdoFrom payload entries offset od = (.ok (), od') ∧
      (∀ key, key ∉ mappedKeys entries → od' key = od key) ∧
        ∀ es ∈ slices (payload.drop offset) entries, es.1.index ≠ 0 →
          od'.readSdo py es.1.key es.1.bytes = .ok es.2 := by
  induction entries generalizing offset od with
  | nil => exact ⟨od, rfl, fun _ _ => rfl, nofun⟩
  | cons e rest ih =>
    have hrest : ∀ e ∈ rest, e.Shaped := fun e he => hshaped e (List.mem_cons_of_mem _ he)
    have hsize : byteSize (e :: rest) = e.bytes + byteSize rest := List.sum_cons
    rw [mappedKeys_cons] at hnodup
    simp only [mappedKeys_cons, slices, List.drop_drop]
    rcases hshaped e List.mem_cons_self with hpadding | ⟨t, ht⟩
    · rw [if_pos hpadding.index] at hnodup
      have hlen' : offset + e.bytes + byteSize rest ≤ payload.length := by omega
      obtain ⟨od', hrun, hother, hread⟩ := ih hrest hnodup hlen' fun e he => hdefined e (List.mem_cons_of_mem _ he)
      have hskip : od.rxpdoEntry e ((payload.drop offset).take e.bytes) = .ok od := if_pos (.inl hpadding.index)
      simp only [hpadding.index, if_true]
      refine ⟨od', (rxpdoFrom_cons (.inl hpadding) (by omega) hskip).trans hrun, hother, fun es hes hne => ?_⟩
      rcases List.mem_cons.mp hes with rfl | hes
      · exact absurd hpadding.index hne
      · exact hread es hes hne
    · rw [if_neg ht.index, List.nodup_cons] at hnodup
      have hraw : ((payload.drop offset).take e.bytes).length = t.size := by
        rw [List.length_take, List.length_drop, ht.bytes]
        rw [hsize, ht.bytes] at hlen
        omega
      obtain ⟨entry, v, hentry, htype, hv, hwrite⟩ :=
        rxpdoEntry_numeric ht (hdefined e List.mem_cons_self ht.index) hraw
      have hdefined' : ∀ e' ∈ rest, e'.index ≠ 0 →
          e'.DefinedIn (Function.update od e.key (some { entry with value := .number v })) := by
        intro e' he' hne
        obtain ⟨entry', hentry', htype'⟩ := hdefined e' (List.mem_cons_of_mem _ he') hne
        have hkey : e'.key ≠ e.key := fun hsame => hnodup.1 (hsame ▸ mem_mappedKeys he' hne)
        exact ⟨entry', (Function.update_of_ne hkey _ _).trans hentry', htype'⟩
      have hlen' : offset + e.bytes + byteSize rest ≤ payload.length := by omega
      obtain ⟨od', hrun, hother, hread⟩ := ih hrest hnodup.2 hlen' hdefined'
      simp only [ht.index, if_false]
      refine ⟨od', (rxpdoFrom_cons (.inr ⟨t, ht⟩) (by omega) hwrite).trans hrun, fun key hkey => ?_,
        fun es hes hne => ?_⟩
      · rw [List.mem_cons, not_or] at hkey
        exact (hother key hkey.2).trans (Function.update_of_ne hkey.1 _ _)
      · rcases List.mem_cons.mp hes with rfl | hes
        · have hheld := (hother e.key hnodup.1).trans (Function.update_self _ _ _)
          rw [readSdo_number py hheld htype rfl]
          exact encode_of_decode hraw hv
        · exact hread es hes hne

/-! Sent images. -/

theorem txpdoEntry_spec {od : VirtualOd F} {e : PdoEntry F} (hshaped : e.Shaped)
    (hdefined : e.index ≠ 0 → e.DefinedIn od) {raw : Bytes} (h : od.txpdoEntry py e = .ok raw) :
    raw.length = e.bytes ∧ (e.IsPadding → raw = List.replicate e.bytes 0) ∧
      (e.index ≠ 0 → od.readSdo py e.key e.bytes = .ok raw) := by
  unfold VirtualOd.txpdoEntry VirtualOd.read at h
  rw [hshaped.byteLength] at h
  dsimp only [bind, Except.bind] at h
  rcases hshaped with hpadding | ⟨t, ht⟩
  · have hraw : List.replicate e.bytes 0 = raw := by
      rw [if_pos (.inl hpadding.index)] at h
      exact Except.ok.inj h
    subst hraw
    exact ⟨List.length_replicate, fun _ => rfl, fun hne => absurd hpadding.index hne⟩
  · obtain ⟨entry, hentry, htype⟩ := hdefined ht.index
    have hraw : encodeNamed py e.dataType entry.value (some e.bytes) = .ok raw := by
      rw [if_neg (fun hskip => hskip.elim ht.index ht.field), hentry] at h
      exact h
    refine ⟨?_, fun hpadding => absurd hpadding.index ht.index, fun _ => ?_⟩
    · rw [ht.dataType, encodeNamed_name] at hraw
      rw [ht.bytes]
      exact length_packFormat py hraw
    · unfold VirtualOd.readSdo
      rw [hentry]
      dsimp only
      rw [htype]
      exact hraw

/-- A sent image has the size of its entries, and each entry as it is read. -/
theorem txpdoPayload_spec {entries : List (PdoEntry F)} (hshaped : ∀ e ∈ entries, e.Shaped)
    {od : VirtualOd F} (hdefined : ∀ e ∈ entries, e.index ≠ 0 → e.DefinedIn od) {output : Bytes}
    (h : od.txpdoPayload py entries = .ok output) :
    output.length = byteSize entries ∧ ∀ es ∈ slices output entries,
      (es.1.IsPadding → es.2 = List.replicate es.1.bytes 0) ∧
        (es.1.index ≠ 0 → od.readSdo py es.1.key es.1.bytes = .ok es.2) := by
  induction entries generalizing output with
  | nil =>
    cases h
    exact ⟨rfl, nofun⟩
  | cons e rest ih =>
    rw [VirtualOd.txpdoPayload] at h
    cases hraw : od.txpdoEntry py e with
    | error _ =>
      rw [hraw] at h
      cases h
    | ok raw =>
      cases htail : od.txpdoPayload py rest with
      | error _ =>
        rw [hraw, htail] at h
        cases h
      | ok tail =>
        rw [hraw, htail] at h
        cases h
        obtain ⟨hlen, hpadding, hread⟩ := txpdoEntry_spec py (hshaped e List.mem_cons_self)
          (hdefined e List.mem_cons_self) hraw
        obtain ⟨hlens, hreads⟩ := ih (fun e he => hshaped e (List.mem_cons_of_mem _ he))
          (fun e he => hdefined e (List.mem_cons_of_mem _ he)) htail
        have hsize : byteSize (e :: rest) = e.bytes + byteSize rest := List.sum_cons
        refine ⟨by rw [List.length_append]; omega, fun es hes => ?_⟩
        rw [slices, ← hlen, List.take_left, List.drop_left] at hes
        rcases List.mem_cons.mp hes with rfl | hes
        · exact ⟨hpadding, hread⟩
        · exact hreads es hes

/-- The dictionary with other runtime values. -/
def VirtualOd.withValues (od : VirtualOd F) (values : Key → Content F) : VirtualOd F := fun key =>
  (od key).map fun entry => { entry with value := values key }

/-- Image and SDO access show the same values, whatever the configuration overlays and whatever the
dictionary holds. -/
theorem image_agrees (c : PdoConfiguration F) (base : VirtualOd F) : ∃ od, c.overlaid base = .ok od ∧
    ∀ values,
      (∀ payload, payload.length = byteSize c.rx →
        ∃ od', VirtualOd.rxpdoFrom payload c.rx 0 (od.withValues values) = (.ok (), od') ∧
          ∀ es ∈ slices payload c.rx, es.1.index ≠ 0 → od'.readSdo py es.1.key es.1.bytes = .ok es.2) ∧
      ∀ output, (od.withValues values).txpdoPayload py c.tx = .ok output →
        output.length = byteSize c.tx ∧ ∀ es ∈ slices output c.tx,
          (es.1.IsPadding → es.2 = List.replicate es.1.bytes 0) ∧
            (es.1.index ≠ 0 → (od.withValues values).readSdo py es.1.key es.1.bytes = .ok es.2) := by
  have hdistinct : (mappedKeys c.rx ++ mappedKeys c.tx).Nodup := by
    have h := c.distinct
    rw [List.filter_append, List.map_append] at h
    exact h
  obtain ⟨hrx, htx, hdisjoint⟩ := List.nodup_append.mp hdistinct
  have hshapedRx : ∀ e ∈ c.rx, e.Shaped := fun e he => c.shaped e (List.mem_append_left _ he)
  have hshapedTx : ∀ e ∈ c.tx, e.Shaped := fun e he => c.shaped e (List.mem_append_right _ he)
  obtain ⟨od₁, hrun₁, hdefined₁, -⟩ := overlayPdo_spec .rxpdo hshapedRx hrx base
  obtain ⟨od, hrun, hdefined, hother⟩ := overlayPdo_spec .txpdo hshapedTx htx od₁
  have hvalues {e : PdoEntry F} (values : Key → Content F) (h : e.DefinedIn od) :
      e.DefinedIn (od.withValues values) := by
    obtain ⟨entry, hentry, htype⟩ := h
    exact ⟨_, congrArg (Option.map _) hentry, htype⟩
  have hdefinedRx : ∀ e ∈ c.rx, e.index ≠ 0 → e.DefinedIn od := by
    intro e he hne
    obtain ⟨entry, hentry, htype⟩ := hdefined₁ e he hne
    have hkey : e.key ∉ mappedKeys c.tx := fun hmem => hdisjoint _ (mem_mappedKeys he hne) _ hmem rfl
    exact ⟨entry, (hother _ hkey).trans hentry, htype⟩
  refine ⟨od, ?_, fun values => ⟨fun payload hlen => ?_, fun output houtput => ?_⟩⟩
  · unfold PdoConfiguration.overlaid
    rw [hrun₁]
    exact hrun
  · have hlen' : 0 + byteSize c.rx ≤ payload.length := by omega
    obtain ⟨od', hrx', -, hread⟩ := rxpdoFrom_spec py hshapedRx hrx hlen' fun e he hne =>
      hvalues values (hdefinedRx e he hne)
    exact ⟨od', hrx', hread⟩
  · exact txpdoPayload_spec py hshapedTx (fun e he hne => hvalues values (hdefined e he hne)) houtput

end EthercatSimulator.Profile
