import Savor.Probe.SamplePayloads

/-!
# Lists come back from the payload

The loop over the nodes of a list leaves whole nodes behind the header, and bytes
of a last one that is not counted if there was no room for it.
-/

namespace Savor.Probe

open Capture (Field LinkedListMember LinkedListNode LinkedListValue appendPod flag)
open Program (ByteString)

variable {guest : Guest} {sample : SampleDefinition}

/-- The bytes of a member in the payload. -/
def memberPieces (member : LinkedListMember) : List ByteString :=
  [appendPod .u8 (flag (member.status == .present)), appendPod .u64 member.value]

/-- The bytes of a node in the payload. -/
def nodeBytes (node : LinkedListNode) : ByteString :=
  appendPod .u32 node.address ++ node.fields.flatMap fun member => (memberPieces member).flatten

theorem memberPieces_listMember (node : UInt32) (definition : LinkedListField) :
    memberPieces (listMember guest node definition) = [appendPod .u8 (flag (guest.readGuestValue
          (displaced node definition.offset) definition.width).isSome),
        appendPod .u64 ((guest.readGuestValue
          (displaced node definition.offset) definition.width).getD 0)] := by
  unfold memberPieces listMember
  cases guest.readGuestValue (displaced node definition.offset) definition.width <;> rfl

theorem length_memberPieces (member : LinkedListMember) :
    (memberPieces member).flatten.length = 9 := by
  simp [memberPieces, appendPod, Library.Stream.Word.length_encode]
  rfl

/-! ## The loop -/

/-- The members of a node are appended, or there is no room for them. -/
theorem sampleListMembers_spec (guest : Guest) (node : UInt32)
    (definitions : List LinkedListField) (sampling : ListSampling) :
    let sampled := sampleListMembers guest node definitions sampling
    let members := definitions.map (listMember guest node)
    (sampling.payload.length + 9 * definitions.length ≤ rawPayloadBytes →
      ∃ flags, flags.truncated = sampling.flags.truncated ∧
        sampled = (true, { sampling with
          payload := sampling.payload ++ members.flatMap fun member => (memberPieces member).flatten
          flags })) ∧
      (sampling.payload.length ≤ rawPayloadBytes →
        rawPayloadBytes < sampling.payload.length + 9 * definitions.length →
        ∃ junk flags, flags.truncated = true ∧
          sampled = (false, { sampling with
            payload := sampling.payload ++ junk, flags })) := by
  induction definitions generalizing sampling with
  | nil =>
    refine ⟨fun _ => ⟨sampling.flags, rfl, ?_⟩, fun fits overflows => ?_⟩
    · simp [sampleListMembers]
    · simp only [List.length_nil] at overflows
      omega
  | cons definition definitions ih =>
    have pieces := @memberPieces_listMember guest node definition
    have size := length_memberPieces (listMember guest node definition)
    dsimp only
    unfold sampleListMembers
    dsimp only
    rw [← pieces]
    generalize marks : (if (guest.readGuestValue
      (displaced node definition.offset) definition.width).isNone then
        sampling.unreadable else sampling) = marked
    have same : ∃ flags : SampleFlags,
        flags.truncated = sampling.flags.truncated ∧ marked = { sampling with flags } := by
      rw [← marks]
      split
      · exact ⟨{ sampling.flags with unreadable := true }, rfl, rfl⟩
      · exact ⟨sampling.flags, rfl, rfl⟩
    obtain ⟨flags, truncated, rfl⟩ := same
    rw [List.length_cons]
    rcases @payloadAppendAll_cases sampling.payload
        (memberPieces (listMember guest node definition))
        (by simp [memberPieces]) with
      ⟨room, appended⟩ | ⟨overflows, junk, appended⟩
    · rw [size] at room
      rw [appended]
      dsimp only
      obtain ⟨whole, partial'⟩ := ih
        { sampling with
          payload := sampling.payload ++ (memberPieces (listMember guest node definition)).flatten
          flags }
      simp only [List.length_append, size] at whole partial'
      constructor
      · intro fits
        obtain ⟨flags', truncated', sampled⟩ := whole (by omega)
        refine ⟨flags', truncated'.trans truncated, ?_⟩
        rw [sampled]
        simp
      intro _ overflows
      obtain ⟨junk, flags', truncated', sampled⟩ := partial' (by omega) (by omega)
      refine ⟨(memberPieces (listMember guest node definition)).flatten ++
        junk, flags', truncated', ?_⟩
      rw [sampled]
      simp
    · rw [size] at overflows
      rw [appended]
      constructor
      · intro fits
        omega
      · intro _ _
        exact ⟨junk, _, rfl, rfl⟩

variable {nodes : List LinkedListNode} {seen : List UInt32}

/-- Nothing follows a null pointer. -/
theorem ListFrom.of_null (listed : ListFrom guest sample seen 0 nodes) : nodes = [] := by
  cases listed with
  | null | cycle => rfl
  | node new => exact absurd rfl new.1

theorem ListFrom.of_again {node : UInt32} (again : node ∈ seen)
    (listed : ListFrom guest sample seen node nodes) : nodes = [] := by
  cases listed with
  | null | cycle => rfl
  | node new => exact absurd again new.2

theorem ListFrom.of_new {node : UInt32} (new : node ≠ 0 ∧ node ∉ seen)
    (listed : ListFrom guest sample seen node nodes) :
    ∃ next others, nextNode guest sample node = some next ∧
      ListFrom guest sample (seen ++ [node]) next others ∧
      nodes = listNode guest sample node :: others := by
  cases listed with
  | null => exact absurd rfl new.1
  | cycle again => exact absurd again new.2
  | node _ _ follows rest => exact ⟨_, _, follows, rest, rfl⟩

/-- What the loop over the nodes has done. -/
structure ListWalked (guest : Guest) (sample : SampleDefinition)
    (remaining : Nat) (sampling walked : ListSampling) (nodes : List LinkedListNode) : Prop where
  payload : ∃ junk, walked.payload = sampling.payload ++ (nodes.flatMap nodeBytes ++ junk)
  count : walked.nodeCount = sampling.nodeCount + nodes.length
  few : nodes.length ≤ remaining
  recorded : ∀ node ∈ nodes, ∃ address, node = listNode guest sample address
  room : nodes ≠ [] → nodeSize sample ≤ rawPayloadBytes
  cut : (walked.flags.truncated = true ∨
      (walked.node ≠ 0 ∧ sampling.nodeCount + remaining ≤ walked.nodeCount)) ↔
    ListCut guest sample remaining sampling.payload.length sampling.seen sampling.node
  complete : ¬ListCut guest sample remaining sampling.payload.length
      sampling.seen sampling.node →
    ∀ all, ListFrom guest sample sampling.seen sampling.node all → all = nodes

/-- A loop that does not go on. -/
theorem ListWalked.stop {remaining : Nat} {sampling walked : ListSampling}
    (payload : ∃ junk, walked.payload = sampling.payload ++ junk)
    (count : walked.nodeCount = sampling.nodeCount) (cut : (walked.flags.truncated = true ∨
        (walked.node ≠ 0 ∧ sampling.nodeCount + remaining ≤ walked.nodeCount)) ↔
      ListCut guest sample remaining sampling.payload.length sampling.seen sampling.node)
    (complete : ¬ListCut guest sample remaining sampling.payload.length
        sampling.seen sampling.node →
      ∀ all, ListFrom guest sample sampling.seen sampling.node all → all = []) :
    ListWalked guest sample remaining sampling walked [] where
  payload := payload
  count := count
  few := Nat.zero_le _
  recorded := by simp
  room := fun nonempty => absurd rfl nonempty
  cut := cut
  complete := complete

theorem nodeBytes_listNode (node : UInt32) : nodeBytes (listNode guest sample node) =
      appendPod .u32 node ++ (sample.linkedListFields.map (listMember guest node)).flatMap
          fun member => (memberPieces member).flatten := rfl

theorem length_nodeBytes (node : UInt32) :
    (nodeBytes (listNode guest sample node)).length = nodeSize sample := by
  rw [nodeBytes_listNode, List.length_append, List.length_flatMap]
  have each : ∀ member : LinkedListMember,
      (memberPieces member).flatten.length = 9 := length_memberPieces
  have address : (appendPod .u32 node).length = 4 := Library.Stream.Word.length_encode _ _
  simp [each, address, nodeSize, Function.comp_def, Nat.mul_comm]

/-- The loop after a node for which there was room. -/
theorem ListWalked.follow {remaining : Nat} {sampling : ListSampling} {flags : SampleFlags}
    (fits : sampling.payload.length + nodeSize sample ≤ rawPayloadBytes)
    (new : sampling.node ≠ 0 ∧ sampling.node ∉ sampling.seen) (whole : flags.truncated = false)
    (rest : ∀ {next : ListSampling}, next.payload.length ≤ rawPayloadBytes →
      next.flags.truncated = false → ∃ nodes, ListWalked guest sample remaining next
        (sampleListNodes guest sample remaining next) nodes) :
    let counted : ListSampling :=
      { payload := sampling.payload ++ nodeBytes (listNode guest sample sampling.node)
        node := sampling.node
        seen := sampling.seen ++ [sampling.node]
        nodeCount := sampling.nodeCount + 1
        flags }
    ∃ nodes, ListWalked guest sample (remaining + 1) sampling
      (match nextNode guest sample sampling.node with
        | none => counted.unreadable
        | some next => sampleListNodes guest sample remaining { counted with node := next })
      nodes := by
  intro counted
  have size := @length_nodeBytes guest sample sampling.node
  have length : counted.payload.length = sampling.payload.length + nodeSize sample := by
    rw [← size, ← List.length_append]
  have room : nodeSize sample ≤ rawPayloadBytes := by omega
  have roomy : ¬rawPayloadBytes < sampling.payload.length + nodeSize sample := Nat.not_lt.mpr fits
  cases follows : nextNode guest sample sampling.node with
  | none =>
    refine ⟨[listNode guest sample sampling.node], ⟨[], ?_⟩, rfl, ?_, ?_, fun _ => room, ?_, ?_⟩
    · simp [counted, ListSampling.unreadable]
    · simp
    · simp
    · simp [counted, ListSampling.unreadable, whole, ListCut, new, follows, roomy]
    intro _ all listed
    obtain ⟨next, -, there, -⟩ := listed.of_new new
    rw [follows] at there
    cases there
  | some next =>
    obtain ⟨nodes, walked⟩ := @rest { counted with node := next } (by rw [length]; exact fits) whole
    obtain ⟨⟨junk, payload⟩, count, few, recorded, -, cut, complete⟩ := walked
    rw [length] at cut complete
    have cutIff : ListCut guest sample (remaining + 1)
        sampling.payload.length sampling.seen sampling.node ↔
          ListCut guest sample remaining
            (sampling.payload.length + nodeSize sample)
            (sampling.seen ++ [sampling.node]) next := by
      simp [ListCut, new, follows, roomy]
    refine ⟨listNode guest sample sampling.node :: nodes, ⟨junk, ?_⟩, ?_, ?_,
      ?_, fun _ => room, ?_, ?_⟩
    · rw [payload]
      simp [counted]
    · rw [count, List.length_cons]
      simp only [counted]
      omega
    · rw [List.length_cons]
      omega
    · intro node member
      rcases List.mem_cons.mp member with rfl | member
      · exact ⟨_, rfl⟩
      · exact recorded node member
    · rw [cutIff, ← cut]
      simp only [counted, Nat.add_assoc, Nat.add_comm 1]
    intro notCut all listed
    obtain ⟨after, others, there, listed, rfl⟩ := listed.of_new new
    rw [follows] at there
    cases there
    rw [complete (fun cut => notCut (cutIff.mpr cut)) others listed]

/-- The loop goes as far as the list and the room go.  The induction is on how
many nodes may follow. -/
theorem sampleListNodes_walked (remaining : Nat) {sampling : ListSampling}
    (fits : sampling.payload.length ≤ rawPayloadBytes) (whole : sampling.flags.truncated = false) :
    ∃ nodes, ListWalked guest sample remaining sampling
      (sampleListNodes guest sample remaining sampling) nodes := by
  induction remaining generalizing sampling with
  | zero =>
    refine ⟨[], .stop ⟨[], (List.append_nil _).symm⟩ rfl ?_ ?_⟩
    · simp [sampleListNodes, whole, ListCut]
    intro notCut all listed
    have null : sampling.node = 0 := Decidable.not_not.mp notCut
    rw [null] at listed
    exact listed.of_null
  | succ remaining ih =>
    unfold sampleListNodes
    by_cases null : sampling.node = 0
    · rw [if_pos null]
      refine ⟨[], .stop ⟨[], (List.append_nil _).symm⟩ rfl ?_ ?_⟩
      · simp [whole, ListCut, null]
      intro _ all listed
      rw [null] at listed
      exact listed.of_null
    rw [if_neg null]
    by_cases again : sampling.node ∈ sampling.seen
    · rw [if_pos again]
      refine ⟨[], .stop ⟨[], (List.append_nil _).symm⟩ rfl ?_ ?_⟩
      · simp [whole, ListCut, again]
      · intro _ all listed
        exact listed.of_again again
    rw [if_neg again]
    have new : sampling.node ≠ 0 ∧ sampling.node ∉ sampling.seen := ⟨null, again⟩
    have address : (appendPod .u32 sampling.node).length = 4 :=
      Library.Stream.Word.length_encode _ _
    dsimp only
    unfold payloadAppend
    rw [address]
    have members := sampleListMembers_spec guest sampling.node
      sample.linkedListFields
      { sampling with
        seen := sampling.seen ++ [sampling.node]
        payload := sampling.payload ++ appendPod .u32 sampling.node }
    simp only [List.length_append, address] at members
    obtain ⟨appended, overflowed⟩ := members
    have overflows : rawPayloadBytes < sampling.payload.length + nodeSize sample →
        ListCut guest sample (remaining + 1) sampling.payload.length sampling.seen sampling.node :=
      fun exceeded => ⟨null, again, Or.inl exceeded⟩
    have size : nodeSize sample = 4 + 9 * sample.linkedListFields.length := rfl
    by_cases room : sampling.payload.length + 4 ≤ rawPayloadBytes
    · rw [if_pos room]
      dsimp only
      by_cases all : sampling.payload.length + nodeSize sample ≤ rawPayloadBytes
      · obtain ⟨flags, truncated, same⟩ := appended (by omega)
        rw [same, List.append_assoc, ← nodeBytes_listNode]
        exact ListWalked.follow all new (truncated.trans whole) ih
      obtain ⟨junk, flags, truncated, same⟩ := overflowed room (by omega)
      rw [same]
      have cut := overflows (by omega)
      refine ⟨[], .stop ⟨appendPod .u32 sampling.node ++ junk, ?_⟩ rfl ?_ ?_⟩
      · simp
      · simp [truncated, cut]
      · exact fun notCut => absurd cut notCut
    · rw [if_neg room]
      have cut := overflows (by omega)
      refine ⟨[], .stop ⟨[], (List.append_nil _).symm⟩ rfl ?_ ?_⟩
      · simp [ListSampling.truncate, cut]
      · exact fun notCut => absurd cut notCut

/-! ## Reading it back -/

theorem readListMembers_recorded (guest : Guest) (node : UInt32)
    (definitions : List LinkedListField) (rest : ByteString) : readListMembers definitions
        ((definitions.map (listMember guest node)).flatMap
          (fun member => (memberPieces member).flatten) ++ rest) =
      ⟨definitions.map (listMember guest node), true, rest⟩ := by
  induction definitions with
  | nil => rfl
  | cons definition definitions ih =>
    simp only [List.map_cons, List.flatMap_cons, memberPieces_listMember,
      List.flatten_cons, List.flatten_nil, List.append_nil, List.append_assoc]
    unfold readListMembers
    rw [readPayload_pod]
    dsimp only
    rw [readPayload_pod]
    dsimp only
    rw [ih]
    unfold listMember
    cases guest.readGuestValue (displaced node definition.offset) definition.width <;> rfl

theorem readListNodes_recorded
    (recorded : ∀ node ∈ nodes, ∃ address, node = listNode guest sample address)
    (rest : ByteString) : readListNodes sample.linkedListFields nodes.length
        (nodes.flatMap nodeBytes ++ rest) = ⟨nodes, true, rest⟩ := by
  induction nodes with
  | nil => rfl
  | cons node nodes ih =>
    obtain ⟨⟨address, rfl⟩, others⟩ := List.forall_mem_cons.mp recorded
    rw [List.length_cons, List.flatMap_cons, nodeBytes_listNode]
    simp only [List.append_assoc]
    unfold readListNodes
    rw [readPayload_pod]
    dsimp only
    rw [readListMembers_recorded, ih others]
    rfl

/-- A list as it is read back. -/
structure ListDecoded (guest : Guest) (sample : SampleDefinition)
    (root : UInt32) (used : Nat) (list : LinkedListValue) : Prop where
  rootAddress : list.rootAddress = root
  head : list.head = (guest.readPointer root).getD 0
  few : list.nodes.length ≤ sample.maxNodes.toNat
  recorded : ∀ node ∈ list.nodes, ∃ address, node = listNode guest sample address
  room : list.nodes ≠ [] → nodeSize sample ≤ rawPayloadBytes
  complete : ¬ListCut guest sample sample.maxNodes.toNat used [] list.head →
    ∀ all, ListFrom guest sample [] list.head all → all = list.nodes

/-- The bytes before the nodes of a list. -/
theorem length_listHeader (head : UInt32) (count : UInt16) (flags : UInt8) :
    [appendPod .u32 head, appendPod .u16 count, [flags]].flatten.length = listHeaderSize := by
  simp [appendPod, Library.Stream.Word.length_encode]
  rfl

theorem readListHeader_eq (head : UInt32) (count : UInt16) (flags : UInt8) (rest : ByteString) :
    readListHeader (appendPod .u32 head ++ (appendPod .u16 count ++ [flags] ++ rest)) =
      some ((head, count, flags), rest) := by
  unfold readListHeader
  rw [readPayload_pod, singleton_eq_pod]
  simp only [List.append_assoc, Option.bind_eq_bind, Option.bind_some]
  rw [readPayload_pod]
  simp only [Option.bind_some]
  rw [readPayload_pod]
  rfl

/-- The list after its nodes: it is truncated if it was cut off, and the header
tells how many nodes there are. -/
theorem sampleListFrom_eq (begin : Nat) (started : ListSampling) :
    let walked := sampleListNodes guest sample sample.maxNodes.toNat started
    let listed := sampleListFrom guest sample begin started
    (listed.flags.truncated = true ↔ (walked.flags.truncated = true ∨
          (walked.node ≠ 0 ∧ sample.maxNodes.toNat ≤ walked.nodeCount))) ∧
      listed.payload = payloadPatch walked.payload (begin + 4)
        (appendPod .u16 (UInt16.ofNat walked.nodeCount) ++ [listed.flags.byte]) := by
  dsimp only
  unfold sampleListFrom
  dsimp only
  split
  · rename_i cut
    simp [ListSampling.truncate, cut]
  · rename_i whole
    simp [whole]

theorem sampleListAt_overflows {root : UInt32} {sampled : Sampled}
    (overflows : rawPayloadBytes < sampled.payload.length + listHeaderSize) :
    let result := sampleListAt guest sample root sampled
    SampledAs sampled result ∧ result.field.status = .truncated ∧
      result.field.payloadSize = sampled.field.payloadSize ∧
      ∃ junk, result.payload = sampled.payload ++ junk := by
  unfold sampleListAt
  dsimp only
  obtain ⟨junk, appended⟩ := @payloadAppendAll_overflows
    sampled.payload
    ([appendPod .u32 ((guest.readPointer root).getD 0), appendPod .u16 0,
      [SampleFlags.byte { unreadable := (guest.readPointer root).isNone }]])
    (by simp) (by rw [length_listHeader]; exact overflows)
  rw [appended]
  exact ⟨⟨rfl, rfl, rfl⟩, rfl, rfl, junk, rfl⟩

/-- There was room for the header: the list comes back, and the field is
truncated if the list was cut off. -/
theorem sampleListAt_fits {root : UInt32} {sampled : Sampled}
    (fits : sampled.payload.length + listHeaderSize ≤ rawPayloadBytes)
    (few : sample.maxNodes.toNat < 2 ^ 16) : let result := sampleListAt guest sample root sampled
    let used := sampled.payload.length + listHeaderSize
    SampledAs sampled result ∧
      (¬ListCut guest sample sample.maxNodes.toNat used [] ((guest.readPointer root).getD 0) →
        result.field.status = sampled.field.status) ∧
      (ListCut guest sample sample.maxNodes.toNat used [] ((guest.readPointer root).getD 0) →
        result.field.status = .truncated) ∧
      result.field.payloadOffset = sampled.payload.length ∧
      ∃ chunk, result.payload = sampled.payload ++ chunk ∧
        result.field.payloadSize = chunk.length ∧
        ∃ list, ListDecoded guest sample root used list ∧
          ∀ field, decodeLinkedList sample result.field field chunk =
            { field with type := .linkedList, linkedList := some list } := by
  unfold sampleListAt
  dsimp only
  have header := length_listHeader ((guest.readPointer root).getD 0) 0
    (SampleFlags.byte { unreadable := (guest.readPointer root).isNone })
  rw [payloadAppendAll_fits (by rw [header]; exact fits)]
  dsimp only
  generalize flags : (SampleFlags.byte { unreadable := (guest.readPointer root).isNone }) = first
  generalize heads : (guest.readPointer root).getD 0 = head
  generalize started : ({ payload := sampled.payload ++ _, node := head
                          flags := _ } : ListSampling) = sampling
  have begun : sampling.payload = sampled.payload ++ [appendPod .u32 head,
      appendPod .u16 0, [first]].flatten := by
    rw [← started]
  have node : sampling.node = head := by rw [← started]
  have seen : sampling.seen = [] := by rw [← started]
  have zero : sampling.nodeCount = 0 := by rw [← started]
  have length : sampling.payload.length = sampled.payload.length + listHeaderSize := by
    rw [begun, List.length_append, length_listHeader]
  obtain ⟨nodes, ⟨junk, payload⟩, count, few', recorded, size, cut, complete⟩ :=
    @sampleListNodes_walked guest sample sample.maxNodes.toNat _ (length ▸ fits) (by rw [← started])
  obtain ⟨truncated, patched⟩ := @sampleListFrom_eq guest sample sampled.payload.length sampling
  rw [length, node, seen, zero, Nat.zero_add] at cut
  rw [length, node, seen] at complete
  rw [zero, Nat.zero_add] at count
  rw [cut] at truncated
  rw [count, payload, begun] at patched
  generalize listed : sampleListFrom guest sample sampled.payload.length
    sampling = list at truncated patched ⊢
  have counted : (UInt16.ofNat nodes.length).toNat = nodes.length :=
    Nat.mod_eq_of_lt (Nat.lt_of_le_of_lt few' few)
  have chunk : list.payload = sampled.payload ++ (appendPod .u32 head ++
      (appendPod .u16 (UInt16.ofNat nodes.length) ++ [list.flags.byte] ++
        (nodes.flatMap nodeBytes ++ junk))) := by
    have split : sampled.payload ++ [appendPod .u32 head, appendPod .u16 0,
          [first]].flatten ++ (nodes.flatMap nodeBytes ++ junk) =
        (sampled.payload ++ appendPod .u32 head) ++
          ((appendPod .u16 0 ++ [first]) ++ (nodes.flatMap nodeBytes ++ junk)) := by
      simp
    have before : sampled.payload.length + 4 = (sampled.payload ++ appendPod .u32 head).length := by
      rw [List.length_append]
      rfl
    rw [patched, split, before, payloadPatch_eq]
    · simp
    · rfl
  refine ⟨⟨rfl, rfl, rfl⟩, ?_, ?_, rfl, _, chunk, ?_, ?_⟩
  · intro notCut
    exact if_neg fun stopped => notCut (truncated.mp stopped)
  · intro isCut
    exact if_pos (truncated.mpr isCut)
  · rw [chunk, List.length_append, Nat.add_sub_cancel_left]
  let value : LinkedListValue :=
    { rootAddress := root
      head
      readOk := list.flags.byte &&& 0x4 = 0
      truncated := list.flags.byte &&& 0x1 ≠ 0
      cycleDetected := list.flags.byte &&& 0x2 ≠ 0
      nodes }
  refine ⟨value, ⟨rfl, heads.symm, few', recorded, size, complete⟩, fun field => ?_⟩
  unfold decodeLinkedList
  rw [readListHeader_eq]
  dsimp only
  rw [counted, readListNodes_recorded recorded]
  simp [validIf, value]

end Savor.Probe
