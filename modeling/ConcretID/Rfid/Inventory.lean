import ConcretID.Library.Records
import ConcretID.Rfid.Responses

open concretid.memory
open concretid.library (Record flatten)

namespace concretid.rfid

/-! ## The response to an inventory

Each tag is a record: the length of its EPC and the EPC. -/

/-- The EPC of a tag. -/
structure Tag where
  bytes : List UInt8
  length_le : bytes.length ≤ 16

namespace Tag

def record (tag : Tag) : Record UInt8.toNat where
  head := UInt8.ofNat tag.bytes.length
  body := tag.bytes
  length_body := by
    have := tag.length_le
    rw [UInt8.toNat_ofNat', Nat.mod_eq_of_lt (by omega)]

end Tag

/-- The response without its size and checksum. -/
def inventoryBody (adr reCmd status_ : UInt8) (tags : List Tag) : List UInt8 :=
  [adr, reCmd, status_, UInt8.ofNat tags.length] ++ flatten (tags.map Tag.record)

/-- The EPC in the response of the function. -/
def EPC.bytes (epc : EPC) : List UInt8 := load epc.data 0 epc.len.toNat

/-! ## The loop over the tags -/

theorem EPC.bytes_store (data : Nat → UInt8) (tag : Tag) :
    (EPC.mk tag.record.head (store data 0 tag.bytes)).bytes = tag.bytes := by
  have hlength : tag.record.head.toNat = tag.bytes.length := tag.record.length_body.symm
  simp only [EPC.bytes, hlength, load_store]

/-- The loop finds the records that stand in `bufferCmd`, and fills in one tag for each. -/
theorem readTags_eq {bufferCmd : Nat → UInt8} {found : List Tag} {indiceAtual : Nat} (contEPC : Nat)
    (tags : Nat → EPC)
    (hload : load bufferCmd indiceAtual (flatten (found.map Tag.record)).length =
      flatten (found.map Tag.record)) :
    ∃ tags', readTags bufferCmd found.length contEPC indiceAtual tags = some tags' ∧
      (∀ k < contEPC, tags' k = tags k) ∧
      (load tags' contEPC found.length).map EPC.bytes = found.map Tag.bytes := by
  induction found generalizing contEPC indiceAtual tags with
  | nil => exact ⟨tags, rfl, fun _ _ => rfl, rfl⟩
  | cons tag found ih =>
    have hsize : tag.record.head.toNat = tag.bytes.length := tag.record.length_body.symm
    have hlong : ¬ tag.record.head > 16 := by
      have := tag.length_le
      rw [gt_iff_lt, UInt8.lt_iff_toNat_lt, hsize]
      exact Nat.not_lt.mpr this
    rw [List.map_cons, library.flatten_cons, List.length_cons, load_succ] at hload
    obtain ⟨hhead, hrest⟩ := List.cons_eq_cons.mp hload
    obtain ⟨hdata, hmore⟩ := load_eq_append hrest
    let tags₁ := Function.update tags contEPC ⟨tag.record.head, store (tags contEPC).data 0 tag.bytes⟩
    have hread : readTags bufferCmd (found.length + 1) contEPC indiceAtual tags =
        readTags bufferCmd found.length (contEPC + 1) (indiceAtual + 1 + tag.bytes.length) tags₁ := by
      have hindice : indiceAtual + tag.bytes.length + 1 = indiceAtual + 1 + tag.bytes.length :=
        Nat.add_right_comm _ _ _
      have hdata' : load bufferCmd (indiceAtual + 1) tag.bytes.length = tag.bytes := hdata
      rw [readTags]
      simp only [hhead, if_neg hlong, hsize, hdata', hindice]
      rfl
    obtain ⟨tags', hrun, hbefore, hbytes⟩ := ih (contEPC + 1) tags₁ hmore
    refine ⟨tags', hread.trans hrun, ?_, ?_⟩
    · intro k hk
      rw [hbefore k (Nat.lt_succ_of_lt hk)]
      exact Function.update_of_ne (Nat.ne_of_lt hk) _ _
    · have hthis : (tags' contEPC).bytes = tag.bytes := by
        rw [hbefore contEPC (Nat.lt_succ_self contEPC)]
        simp only [tags₁, Function.update_self]
        exact EPC.bytes_store _ tag
      rw [List.length_cons, load_succ, List.map_cons, List.map_cons, hthis, hbytes]

/-! ## The round trip -/

/-- The records of the first tags are the first part of all. -/
theorem flatten_take (tags : List Tag) (n : Nat) :
    ∃ rest, flatten (tags.map Tag.record) = flatten ((tags.take n).map Tag.record) ++ rest := by
  refine ⟨flatten ((tags.drop n).map Tag.record), ?_⟩
  rw [← library.flatten_append, ← List.map_append, List.take_append_drop]

/-- What a frame that was received whole leaves in `bufferCmd`. -/
theorem receive_of_frame {body : List UInt8} {line : Response} {bufferCmd : Nat → UInt8}
    (hframe : IsFrame body line.frame) (hread : (receive line bufferCmd).unread = []) :
    ∃ size : UInt8, size.toNat = body.length + 2 ∧
      load (receive line bufferCmd).bufferCmd 0 (body.length + 1) = size :: body := by
  have hprompt := (line.receive_unread_iff bufferCmd).mp hread
  obtain ⟨size, hsize, hbytes⟩ := hframe
  refine ⟨size, hsize, ?_⟩
  rw [hprompt.receive_eq]
  have hlength : body.length + 1 ≤ line.frame.length := by simp [hbytes]
  apply (Porta.mirror_load bufferCmd hlength).trans
  rw [hbytes]
  exact List.take_left' (by simp)

theorem length_inventoryBody (adr reCmd status_ : UInt8) (tags : List Tag) :
    (inventoryBody adr reCmd status_ tags).length = 4 + (flatten (tags.map Tag.record)).length := by
  rw [inventoryBody, List.length_append]
  rfl

/-- The count the function goes by is never above sixteen. -/
theorem numTags_toNat {n : Nat} (hn : n < 256) :
    (if UInt8.ofNat n > 16 then 16 else UInt8.ofNat n).toNat = min 16 n := by
  have hnum : (UInt8.ofNat n).toNat = n := by rw [UInt8.toNat_ofNat', Nat.mod_eq_of_lt hn]
  split
  · next hmany =>
    rw [gt_iff_lt, UInt8.lt_iff_toNat_lt, hnum] at hmany
    exact (Nat.min_eq_left (Nat.le_of_lt hmany)).symm
  · next hfew =>
    rw [gt_iff_lt, UInt8.lt_iff_toNat_lt, hnum] at hfew
    rw [hnum]
    exact (Nat.min_eq_right (Nat.not_lt.mp hfew)).symm

/-- Of a checked response the function keeps the tags its loop finds. -/
theorem inventoryResponse_of_tags {received : Received} {front : UInt8} (resposta : ResponseInventoryCMD)
    (hchecked : received.checked front = true) (hlen : received.bufferCmd 0 > 5) {numTags : UInt8}
    (hnumTags : (if received.bufferCmd 4 > 16 then 16 else received.bufferCmd 4) = numTags)
    {tags : Nat → EPC} (htags : readTags received.bufferCmd numTags.toNat 0 5 resposta.tags = some tags) :
    ∃ r, inventoryResponse received front resposta = some r ∧ r.flagCRC = 0 ∧ r.numTags = numTags ∧
      r.tags = tags := by
  rw [inventoryResponse]
  simp only [hchecked, if_true, hlen, hnumTags, htags]
  exact ⟨_, rfl, rfl, rfl, rfl⟩

/-- The function takes the tags out of the frame they were put into, the first
sixteen of them. -/
theorem inventory_round_trip (tags : List Tag) (adr reCmd status_ : UInt8) (line : Response)
    (hframe : IsFrame (inventoryBody adr reCmd status_ tags) line.frame) (porta : Porta) (front : UInt8)
    (resposta : ResponseInventoryCMD) (hread : (inventoryRun porta front line resposta).2 = []) :
    ∃ r, (inventoryRun porta front line resposta).1 = some r ∧ r.flagCRC = 0 ∧
      r.numTags.toNat = min 16 tags.length ∧
      (load r.tags 0 r.numTags.toNat).map EPC.bytes = (tags.take r.numTags.toNat).map Tag.bytes := by
  let received := receive line (inventory_EPCC1G2CMD porta).1.bufferCmd
  obtain ⟨size, hsize, hload⟩ := receive_of_frame hframe hread
  change load received.bufferCmd 0 _ = _ at hload
  have hchecked : received.checked front = true :=
    ((line.receive_unread_iff _).mp hread).checked hframe _ front
  have hbody := length_inventoryBody adr reCmd status_ tags
  -- a tag takes at least its length byte, so the count of the tags fits into its own
  have htags : tags.length < 256 := by
    have hlt := size.toNat_lt
    have hle := library.length_le_flatten (tags.map Tag.record)
    rw [List.length_map] at hle
    omega
  have hlen : received.bufferCmd 0 > 5 := by
    rw [load_succ] at hload
    rw [(List.cons_eq_cons.mp hload).1, gt_iff_lt, UInt8.lt_iff_toNat_lt, hsize, hbody]
    change 5 < _
    omega
  obtain ⟨hfront, hrecords⟩ := load_eq_append (a := [size, adr, reCmd, status_, UInt8.ofNat tags.length])
    (b := flatten (tags.map Tag.record)) hload
  have hnum : received.bufferCmd 4 = UInt8.ofNat tags.length := by
    have hfourth : (load received.bufferCmd 0 5)[4]? = some (UInt8.ofNat tags.length) :=
      congrArg (·[4]?) hfront
    rw [load_getElem?, if_pos (by decide)] at hfourth
    exact Option.some.inj hfourth
  have hnumTags := numTags_toNat htags
  rw [← hnum] at hnumTags
  -- the records the loop goes through stand in front of the others
  obtain ⟨rest, hrest⟩ := flatten_take tags (min 16 tags.length)
  rw [hrest] at hrecords
  obtain ⟨hrecords', -⟩ := load_eq_append hrecords
  obtain ⟨tags', hrun, -, hbytes⟩ := readTags_eq 0 resposta.tags hrecords'
  rw [List.length_take, Nat.min_eq_left (Nat.min_le_right 16 tags.length)] at hrun hbytes
  obtain ⟨r, hr, hflag, hr_numTags, hr_tags⟩ :=
    inventoryResponse_of_tags resposta hchecked hlen rfl (by rw [hnumTags]; exact hrun)
  rw [← hr_numTags] at hnumTags
  refine ⟨r, hr, hflag, hnumTags, ?_⟩
  rw [hnumTags, hr_tags, hbytes]

/-- A tag with an EPC of two bytes and one with none. -/
def twoTags : List Tag := [⟨[0xE2, 0x00], by decide⟩, ⟨[], by decide⟩]

def twoTagsResponse : Response where
  frame := [0x0A, 0x00, 0x01, 0x01, 0x02, 0x02, 0xE2, 0x00, 0x00, 0x31, 0xA2]
  arrived := fun _ => 11
  nonempty := by simp
  mono := monotone_const
  bounded := fun _ => Nat.le_refl _
  complete := ⟨0, rfl⟩

def blankResponse : ResponseInventoryCMD := ⟨0, 0, 0, 0, 0, 0, 0, fun _ => ⟨0, fun _ => 0⟩, 0, 0⟩

theorem twoTags_round_trip :
    IsFrame (inventoryBody 0x00 0x01 0x01 twoTags) twoTagsResponse.frame ∧
      (inventoryRun ⟨fun _ => 0, []⟩ 0 twoTagsResponse blankResponse).2 = [] ∧
      ∃ r, (inventoryRun ⟨fun _ => 0, []⟩ 0 twoTagsResponse blankResponse).1 = some r ∧ r.flagCRC = 0 ∧
        r.numTags.toNat = min 16 twoTags.length ∧
        (load r.tags 0 r.numTags.toNat).map EPC.bytes = (twoTags.take r.numTags.toNat).map Tag.bytes := by
  have hframe : IsFrame (inventoryBody 0x00 0x01 0x01 twoTags) twoTagsResponse.frame :=
    ⟨0x0A, by decide, by decide +kernel⟩
  have hread : (inventoryRun ⟨fun _ => 0, []⟩ 0 twoTagsResponse blankResponse).2 = [] :=
    (twoTagsResponse.receive_unread_iff (inventory_EPCC1G2CMD ⟨fun _ => 0, []⟩).1.bufferCmd).mpr
      fun _ _ hi => hi
  exact ⟨hframe, hread, inventory_round_trip twoTags 0x00 0x01 0x01 twoTagsResponse hframe _ 0 _ hread⟩

end concretid.rfid
