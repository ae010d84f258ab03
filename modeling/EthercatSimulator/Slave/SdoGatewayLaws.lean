import EthercatSimulator.Slave.SdoGateway

/-! What the gateway replies to a message, however often it is polled. -/

namespace EthercatSimulator.Slave

open Base Ipc

/-! The buffer of a message. -/

theorem readByte_of_lt {data : Bytes} {offset : Nat} (h : offset < data.length) :
    ∃ b, readByte data offset = some b := by
  unfold readByte
  rw [List.getElem?_eq_getElem h]
  exact ⟨_, rfl⟩

theorem readBytes_of_le {data : Bytes} {offset n : Nat} (h : offset + n ≤ data.length) :
    readBytes data offset n = some ((data.drop offset).take n) := if_pos h

theorem readWord_of_le {data : Bytes} {offset : Nat} (h : offset + 2 ≤ data.length) :
    ∃ w, readWord data offset = some w := by
  unfold readWord
  rw [readBytes_of_le h]
  exact ⟨_, rfl⟩

theorem writeBytes_of_le {data bytes : Bytes} {offset : Nat} (h : offset + bytes.length ≤ data.length) :
    ∃ data', writeBytes data offset bytes = some data' ∧ data'.length = data.length ∧
      ∀ i, data'[i]? = if offset ≤ i ∧ i < offset + bytes.length then bytes[i - offset]? else data[i]? := by
  have hfront : (data.take offset).length = offset := by
    rw [List.length_take]
    omega
  refine ⟨_, if_pos h, ?_, fun i => ?_⟩
  · simp only [List.length_append, List.length_take, List.length_drop]
    omega
  · rw [List.append_assoc]
    split_ifs with hi
    · rw [List.getElem?_append_right (by omega), hfront, List.getElem?_append_left (by omega)]
    · rcases Nat.lt_or_ge i offset with hlt | hge
      · rw [List.getElem?_append_left (by omega), List.getElem?_take_of_lt hlt]
      · rw [List.getElem?_append_right (by omega), hfront, List.getElem?_append_right (by omega),
          List.getElem?_drop]
        congr 1
        omega

/-! The checks. -/

/-- Where the data of a download begins: an expedited one has no length of its own. -/
def payloadOffset (data : Bytes) : Nat :=
  if (readByte data serviceOffset).any fun b => (Command.ofByte b).transferType then dataOffset
  else dataOffset + 4

/-- What holds of a request that has passed the checks. -/
structure SdoRequest.Valid (r : SdoRequest) (dictionary : Dictionary) (data : Bytes) : Prop where
  length : 16 ≤ data.length
  size : 0 < r.size ∧ r.size ≤ 4
  value : r.write = true → readBytes data (payloadOffset data) r.size = some r.value
  entry : ∃ entry, dictionary r.index r.subindex = some entry ∧ r.size = entry.size
  index : readWord data 9 = some r.index
  subindex : readByte data 11 = some r.subindex

theorem payloadOffset_eq {data : Bytes} {b : Nat} (h : readByte data 8 = some b) :
    payloadOffset data = if (Command.ofByte b).transferType then 12 else 16 := by
  unfold payloadOffset serviceOffset dataOffset
  rw [h, Option.any_some]

theorem length_readBytes {data value : Bytes} {offset n : Nat} (h : readBytes data offset n = some value) :
    value.length = n := by
  unfold readBytes at h
  split at h
  · cases h
    rw [List.length_take, List.length_drop]
    omega
  · cases h

/-- The checks stay inside the buffer, and what they let pass is valid. -/
def Checked (dictionary : Dictionary) (data : Bytes) (verdict : Option (Except Nat SdoRequest)) : Prop :=
  ∃ v, verdict = some v ∧ ∀ r, v = .ok r → r.Valid dictionary data

theorem Checked.error {dictionary : Dictionary} {data : Bytes} (code : Nat) :
    Checked dictionary data (some (.error code)) := ⟨_, rfl, nofun⟩

theorem Checked.ite {dictionary : Dictionary} {data : Bytes} {c : Prop} [Decidable c]
    {a b : Option (Except Nat SdoRequest)} (ha : c → Checked dictionary data a)
    (hb : ¬ c → Checked dictionary data b) : Checked dictionary data (if c then a else b) := by
  by_cases hc : c
  · rw [if_pos hc]
    exact ha hc
  · rw [if_neg hc]
    exact hb hc

theorem validate_checked (gateway : SdoGateway) (dictionary : Dictionary) {data : Bytes}
    (h : 12 ≤ data.length) : Checked dictionary data (validate gateway dictionary data) := by
  obtain ⟨len, hlen⟩ := readWord_of_le (show 0 + 2 ≤ data.length by omega)
  obtain ⟨command, hcommand⟩ := readByte_of_lt (show 8 < data.length by omega)
  obtain ⟨index, hindex⟩ := readWord_of_le (show 9 + 2 ≤ data.length by omega)
  obtain ⟨sub, hsub⟩ := readByte_of_lt (show 11 < data.length by omega)
  unfold validate serviceOffset dataOffset
  simp only [Nat.reduceAdd, hlen, hcommand, hindex, hsub, Option.bind_eq_bind, Option.bind_some,
    Option.pure_def]
  refine .ite (fun _ => .error _) fun hlength => ?_
  refine .ite (fun _ => .error _) fun _ => .ite (fun _ => .error _) fun _ => ?_
  cases hentry : dictionary index sub with
  | none => exact .error _
  | some entry =>
    refine .ite (fun _ => .error _) fun hsize => .ite (fun _ => .error _) fun _ =>
      .ite (fun _ => .error _) fun _ => .ite (fun _ => ?_) fun _ => ?_
    · refine .ite (fun hexpedited => .ite (fun _ => .error _) fun hfits => ?_)
        fun hnormal => .ite (fun _ => .error _) fun _ => ?_
      · rw [readBytes_of_le (by omega)]
        refine ⟨_, rfl, fun r hr => ?_⟩
        cases hr
        refine ⟨by omega, by dsimp only; omega, fun _ => ?_, ⟨entry, hentry, rfl⟩, hindex, hsub⟩
        rw [payloadOffset_eq hcommand, if_pos hexpedited]
        exact readBytes_of_le (show 12 + entry.size ≤ data.length by omega)
      · rw [readBytes_of_le (show 12 + 4 ≤ data.length by omega)]
        refine .ite (fun _ => .error _) fun hfits => ?_
        rw [readBytes_of_le (by omega)]
        refine ⟨_, rfl, fun r hr => ?_⟩
        cases hr
        refine ⟨by omega, by dsimp only; omega, fun _ => ?_, ⟨entry, hentry, rfl⟩, hindex, hsub⟩
        rw [payloadOffset_eq hcommand, if_neg hnormal]
        exact readBytes_of_le (show 16 + entry.size ≤ data.length by omega)
    · refine ⟨_, rfl, fun r hr => ?_⟩
      cases hr
      exact ⟨by omega, by dsimp only; omega, nofun, ⟨entry, hentry, rfl⟩, hindex, hsub⟩

/-! The replies. -/

theorem readBytes_congr {a b : Bytes} {offset n : Nat} (ha : offset + n ≤ a.length)
    (hb : offset + n ≤ b.length) (h : ∀ i, offset ≤ i → i < offset + n → a[i]? = b[i]?) :
    readBytes a offset n = readBytes b offset n := by
  rw [readBytes_of_le ha, readBytes_of_le hb]
  congr 1
  apply List.ext_getElem?
  intro i
  rcases Nat.lt_or_ge i n with hi | hi
  · rw [List.getElem?_take_of_lt hi, List.getElem?_take_of_lt hi, List.getElem?_drop, List.getElem?_drop]
    exact h (offset + i) (by omega) (by omega)
  · rw [List.getElem?_eq_none (by rw [List.length_take]; omega),
      List.getElem?_eq_none (by rw [List.length_take]; omega)]

/-- The headers of a reply to the message `raw`: ten bytes of payload, the CoE service, the SDO
command, and the index and subindex of the message. -/
structure ReplyHeader (raw reply : Bytes) (service command : Nat) : Prop where
  length : readWord reply 0 = some 10
  service : (readByte reply 7).map (· / 16) = some service
  command : readByte reply 8 = some command
  address : readBytes reply 9 3 = readBytes raw 9 3

theorem length_resize {data : Bytes} {n : Nat} : (resize data n).length = max data.length n := by
  unfold resize
  rw [List.length_append, List.length_replicate]
  omega

namespace GatewayMessage

/-- The headers of a buffer that holds them, as long as only its data changes. -/
theorem header_spec {data : Bytes} (h : 12 ≤ data.length) {service command : Nat} (hservice : service < 16)
    (hcommand : command < 256) : ∃ data', header data service command = some data' ∧
      data'.length = data.length ∧ ∀ reply : Bytes, 12 ≤ reply.length → (∀ i < 12, reply[i]? = data'[i]?) →
        ReplyHeader data reply service command := by
  obtain ⟨a, ha, halen, hat⟩ := writeBytes_of_le (show 0 + (leBytes 2 10).length ≤ data.length by
    rw [length_leBytes]
    omega)
  obtain ⟨b, hb⟩ := readByte_of_lt (show 7 < a.length by omega)
  obtain ⟨c, hc, hclen, hct⟩ := writeBytes_of_le
    (show 7 + [UInt8.ofNat (b % 16 + 16 * service)].length ≤ a.length by
      rw [List.length_singleton]
      omega)
  obtain ⟨d, hd, hdlen, hdt⟩ := writeBytes_of_le (show 8 + [UInt8.ofNat command].length ≤ c.length by
    rw [List.length_singleton]
    omega)
  rw [length_leBytes] at hat
  rw [List.length_singleton] at hct hdt
  refine ⟨d, ?_, by omega, fun reply hlen hreply => ⟨?_, ?_, ?_, ?_⟩⟩
  · unfold header serviceOffset
    simp only [ha, hb, hc, hd, Option.bind_eq_bind, Option.bind_some]
  · have htwo : readBytes reply 0 2 = readBytes (leBytes 2 10) 0 2 := by
      refine readBytes_congr (by omega) (by rw [length_leBytes]) fun i _ hi => ?_
      rw [hreply i (by omega), hdt, if_neg (by omega), hct, if_neg (by omega), hat, if_pos (by omega)]
      rfl
    unfold readWord
    rw [htwo]
    rfl
  · unfold readByte
    rw [hreply 7 (by omega), hdt, if_neg (by omega), hct, if_pos (by omega)]
    simp only [Nat.sub_self, List.getElem?_cons_zero, Option.map_some, UInt8.toNat_ofNat']
    congr 1
    omega
  · unfold readByte
    rw [hreply 8 (by omega), hdt, if_pos (by omega)]
    simp only [Nat.sub_self, List.getElem?_cons_zero, Option.map_some, UInt8.toNat_ofNat']
    congr 1
    omega
  · refine readBytes_congr (by omega) (by omega) fun i hlow hhigh => ?_
    rw [hreply i (by omega), hdt, if_neg (by omega), hct, if_neg (by omega), hat, if_neg (by omega)]

variable {m : GatewayMessage}

/-- A buffer that is filled up to the length of an abort keeps its address. -/
theorem resized_address {raw : Bytes} (h : 12 ≤ raw.length) (n : Nat) :
    readBytes (resize raw n) 9 3 = readBytes raw 9 3 := by
  have hlen : raw.length ≤ (resize raw n).length := by
    rw [length_resize]
    omega
  refine readBytes_congr (by omega) (by omega) fun i _ hi => ?_
  unfold resize
  exact List.getElem?_append_left (by omega)

theorem abort_header (m : GatewayMessage) (code : Nat) :
    ∃ data, m.abort code = some (m.reply data) ∧ ReplyHeader (resize m.data 16) data 2 0x80 := by
  have hlen : 16 ≤ (resize m.data 16).length := by
    rw [length_resize]
    omega
  obtain ⟨a, ha, halen, hheader⟩ := header_spec (show 12 ≤ (resize m.data 16).length by omega)
    (show 2 < 16 by omega) (show 0x80 < 256 by omega)
  obtain ⟨b, hb, hblen, hbt⟩ := writeBytes_of_le (show 12 + (leBytes 4 code).length ≤ a.length by
    rw [length_leBytes]
    omega)
  refine ⟨b, ?_, hheader b (by omega) fun i hi => by rw [hbt, if_neg (by omega)]⟩
  unfold abort dataOffset
  simp only [Nat.reduceAdd, ha, hb, Option.bind_eq_bind, Option.bind_some, Option.pure_def]

theorem abort_spec (h : 12 ≤ m.data.length) (code : Nat) :
    ∃ data, m.abort code = some (m.reply data) ∧ ReplyHeader m.data data 2 0x80 := by
  obtain ⟨data, habort, hreply⟩ := m.abort_header code
  exact ⟨data, habort, ⟨hreply.length, hreply.service, hreply.command,
    hreply.address.trans (resized_address h _)⟩⟩

theorem succeed_spec (h : 16 ≤ m.data.length) (r : SdoRequest) (hsize : 0 < r.size ∧ r.size ≤ 4)
    {value : Bytes} (hvalue : value.length = r.size) :
    ∃ data, m.succeed r value = some (({ m with
      dictionary := Dictionary.commit m.dictionary r value } : GatewayMessage).reply data) ∧
      ReplyHeader m.data data 3 (if r.write then 0x60 else 0x43 ||| (4 - r.size) <<< 2) ∧
      (r.write = false → readBytes data 12 r.size = some value) := by
  have hcommand : (if r.write then 0x60 else 0x43 ||| (4 - r.size) <<< 2) < 256 := by
    have hcases : r.size = 1 ∨ r.size = 2 ∨ r.size = 3 ∨ r.size = 4 := by omega
    rcases hcases with h | h | h | h <;> rw [h] <;> cases r.write <;> decide
  have hlen : (resize m.data 16).length = m.data.length := by
    rw [length_resize]
    omega
  obtain ⟨a, ha, halen, hheader⟩ := header_spec (show 12 ≤ (resize m.data 16).length by omega)
    (show 3 < 16 by omega) hcommand
  have hcleared : (a.take 12 ++ List.replicate (a.length - 12) 0).length = a.length := by
    rw [List.length_append, List.length_take, List.length_replicate]
    omega
  have hfront : ∀ i < 12, (a.take 12 ++ List.replicate (a.length - 12) 0)[i]? = a[i]? := fun i hi => by
    rw [List.getElem?_append_left (by rw [List.length_take]; omega), List.getElem?_take_of_lt hi]
  have haddress := resized_address (show 12 ≤ m.data.length by omega) 16
  unfold succeed dataOffset
  simp only [Nat.reduceAdd, ha, Option.bind_eq_bind, Option.bind_some, Option.pure_def]
  cases hwrite : r.write with
  | true =>
    have hreply := hheader _ (by omega) hfront
    rw [hwrite] at hreply
    exact ⟨_, rfl, ⟨hreply.length, hreply.service, hreply.command, hreply.address.trans haddress⟩, nofun⟩
  | false =>
    obtain ⟨b, hb, hblen, hbt⟩ := writeBytes_of_le
      (show 12 + value.length ≤ (a.take 12 ++ List.replicate (a.length - 12) 0).length by omega)
    have hreply := hheader b (by omega) fun i hi => by rw [hbt, if_neg (by omega), hfront i hi]
    rw [hwrite] at hreply
    rw [hb]
    refine ⟨b, rfl, ⟨hreply.length, hreply.service, hreply.command, hreply.address.trans haddress⟩,
      fun _ => ?_⟩
    rw [readBytes_of_le (by omega)]
    congr 1
    apply List.ext_getElem?
    intro i
    rcases Nat.lt_or_ge i r.size with hi | hi
    · rw [List.getElem?_take_of_lt hi, List.getElem?_drop, hbt, if_pos (by omega)]
      congr 1
      omega
    · rw [List.getElem?_eq_none (by rw [List.length_take]; omega), List.getElem?_eq_none (by omega)]

end GatewayMessage

end EthercatSimulator.Slave
