import EthercatSimulator.Storage.ParameterStore
import EthercatSimulator.Runtime.ModelLaws

/-! What a snapshot that loads is made of. -/

namespace EthercatSimulator.Storage

open Base Profile Ipc EthercatSimulator.Runtime

variable {F σ : Type} [PyFloat F]

/-- A saved value that decodes, and is what the model may take. -/
structure Decoded (values : Json) (key : Key) (original : Bytes) (v : Value F) (d : Definition)
    (raw : String) (payload : Bytes) : Prop where
  definition : definition key = some d
  text : text? (keyText key) values = some raw
  length : raw.length = (hexText original).length
  hex : fromHex raw = some payload
  value : decodeOdValue d.dataType payload = .ok v
  finite : isFinite v = true
  encodes : Encodable d.dataType v
  unit : d.access = .ro → raw = hexText original

theorem decodeParameter_ok {path : String} {values : Json} {key : Key} {original : Bytes}
    {kv : Key × Value F} : decodeParameter path values key original = .ok kv ↔
      kv.1 = key ∧ ∃ d raw payload, Decoded values key original kv.2 d raw payload := by
  constructor
  · intro h
    unfold decodeParameter at h
    cases hd : Profile.definition key with
    | none =>
      rw [hd] at h
      cases h
    | some d =>
      rw [hd] at h
      dsimp only [bind, Except.bind, throw, throwThe, MonadExceptOf.throw, pure, Except.pure] at h
      split at h
      · rename_i raw hraw
        split at h
        · cases h
        · rename_i hlen
          split at h
          · rename_i payload hpayload
            split at h
            · cases h
            · rename_i v hv
              split at h
              · cases h
              · rename_i hfinite
                split at h
                · cases h
                · rename_i encoded hencoded
                  split at h
                  · cases h
                  · rename_i hunit
                    cases h
                    exact ⟨rfl, d, raw, payload, hd, hraw, by simpa using hlen, hpayload, hv,
                      by simpa using hfinite, ⟨encoded, hencoded⟩, by simpa using hunit⟩
          · cases h
      · cases h
  · rintro ⟨rfl, d, raw, payload, hd, hraw, hlen, hpayload, hv, hfinite, ⟨encoded, hencoded⟩, hunit⟩
    unfold decodeParameter
    rw [hd]
    dsimp only [bind, Except.bind, throw, throwThe, MonadExceptOf.throw, pure, Except.pure]
    rw [hraw]
    dsimp only
    rw [if_neg (by simpa using hlen), hpayload]
    dsimp only
    rw [hv]
    dsimp only
    rw [if_neg (by simpa using hfinite), hencoded]
    dsimp only
    rw [if_neg (by simpa using hunit)]

/-- The writes of a load. -/
def writeDecoded (P : ParameterAccess F σ) (decoded : List (Key × Value F)) (model : σ) : σ :=
  decoded.foldl (fun model kv => P.write kv.1 kv.2 model) model

omit [PyFloat F] in
theorem writeDecoded_keeps {P : ParameterAccess F σ} {Q : σ → Prop} {decoded : List (Key × Value F)}
    {model : σ} (hwrite : ∀ kv ∈ decoded, ∀ s, Q s → Q (P.write kv.1 kv.2 s)) (h : Q model) :
    Q (writeDecoded P decoded model) := by
  induction decoded generalizing model with
  | nil => exact h
  | cons kv rest ih =>
    exact ih (fun kv' hkv' => hwrite kv' (List.mem_cons_of_mem _ hkv'))
      (hwrite kv List.mem_cons_self model h)

/-- Only decoded values reach the model. -/
theorem load_keeps {format : Format} {device : Device} {A : DriveAdapter F σ} {P : ParameterAccess F σ}
    {Q : σ → Prop} (hcalls : Axis.SdoCalls A (Exec.Preserves Q))
    (hwrite : ∀ key d payload v s, definition key = some d → decodeOdValue d.dataType payload = .ok v →
      Q s → Q (P.write key v s)) (files : Files String UInt8) :
    (load format device A P files).Keeps (Exec.Preserves Q) := by
  unfold load loadFound
  cases files device.path with
  | none => exact Exec.keeps_pure _
  | some text =>
    refine .bind ?_ fun _ => Exec.keeps_pure _
    refine .bind (Exec.keeps_ofExcept _) fun data => .bind (Exec.keeps_ofExcept _) fun values => ?_
    refine .bind hcalls.parameterValues fun expected => .bind (Exec.keeps_require _ _) fun _ => ?_
    intro s hs
    change Exec.Post _ s fun _ s' => Q s'
    apply Exec.Post.bind
    · apply Exec.post_ofExcept
      intro decoded hmap
      have hwrites : Q (writeDecoded P decoded s) := by
        refine writeDecoded_keeps (fun kv hkv s hs => ?_) hs
        obtain ⟨x, _, hx⟩ := exists_of_mapM hmap hkv
        obtain ⟨hkey, d, _, payload, hdecoded⟩ := decodeParameter_ok.mp hx
        rw [hkey]
        exact hwrite x.1 d payload kv.2 s hdecoded.definition hdecoded.value hs
      apply Exec.Post.bind
      · apply Exec.post_ofExcept
        exact fun _ _ => hwrites
      · apply Exec.post_ofExcept
        exact fun _ _ => hs
    · apply Exec.post_ofExcept
      exact fun _ _ => hs

end EthercatSimulator.Storage
