import ManagedRuntime.Proofs.Heap.Texts

/-! The argument array of a program. It refers to a fresh copy of every text but the first, in their
order, and holds nothing else. -/
namespace ManagedRuntime.Heap
open Memory

/-- The references to texts at these addresses, one behind the other. -/
def encodeTexts (addresses : List UInt64) : List UInt8 :=
  addresses.flatMap fun address => encodeRef (stringConstant address)

@[simp] theorem length_encodeRef (r : Ref) : (encodeRef r).length = 16 := by simp [encodeRef]

theorem length_encodeTexts (addresses : List UInt64) :
    (encodeTexts addresses).length = 16 * addresses.length := by
  induction addresses with
  | nil => rfl
  | cons address rest ih =>
    have split : encodeTexts (address :: rest) =
        encodeRef (stringConstant address) ++ encodeTexts rest := rfl
    rw [split, List.length_append, length_encodeRef, ih, List.length_cons]
    omega

/-- Element by element, references are found where they were written. -/
theorem drop_encodeTexts (addresses : List UInt64) (index : Nat) :
    (encodeTexts addresses).drop (16 * index) = encodeTexts (addresses.drop index) := by
  induction addresses generalizing index with
  | nil => simp [encodeTexts]
  | cons address rest ih =>
    cases index with
    | zero => rfl
    | succ index =>
      have split : encodeTexts (address :: rest) =
          encodeRef (stringConstant address) ++ encodeTexts rest := rfl
      have next : 16 * (index + 1) = (encodeRef (stringConstant address)).length + 16 * index := by
        rw [length_encodeRef]
        omega
      rw [split, next, ← List.drop_drop, List.drop_left, ih, List.drop_succ_cons]

theorem refElementPosition_eq (index : Nat) : refElementPosition index = 16 + 16 * index := by
  simp only [refElementPosition, Format.arrayElementsAt, Format.referenceSize, UInt64.reduceToNat]
  omega

theorem encodeTexts_cons (address : UInt64) (rest : List UInt64) :
    encodeTexts (address :: rest) = encodeRef (stringConstant address) ++ encodeTexts rest := rfl

/-- Copies one text and stores the reference to it. -/
def storeText (heap : Heap) (target : Ref) (index : Nat) (address : UInt64) : Heap :=
  let (string, heap) := heap.copyString (heap.textAt address)
  heap.setFields target ((heap.fields target).write (refElementPosition index) (encodeRef string))

theorem storeTexts_cons (heap : Heap) (target : Ref) (index : Nat) (address : UInt64)
    (rest : List UInt64) : heap.storeTexts target index (address :: rest) =
      (heap.storeText target index address).storeTexts target (index + 1) rest := rfl

/-- What copying texts into an array does: each copy is a text of its own behind all that were
there, and the array refers to the copies from the element at `index` on. -/
structure Stores (heap : Heap) (target : Ref) (index : Nat) (argv : List (List UInt8))
    (copies : List UInt64) (after : Heap) : Prop where
  present : target.object ∈ after.objects
  fields : after.fields target =
    (heap.fields target).write (refElementPosition index) (encodeTexts copies)
  others : ∀ other ≠ target.object, after.objects[other]? = heap.objects[other]?
  kept : ∀ address : UInt64, address.toNat < heap.next →
    after.texts[address]? = heap.texts[address]?
  copied : List.Forall₂ after.HoldsText copies argv
  behind : ∀ copy ∈ copies, heap.next ≤ copy.toNat
  apart : (copies.zip argv).Pairwise fun early late =>
    early.1.toNat + early.2.length < late.1.toNat
  rest : after = { heap with
    objects := after.objects
    texts := after.texts
    next := after.next }

section
variable {heap : Heap} {target : Ref}

/-- The first of several texts. -/
theorem Stores.cons {middle after : Heap} {index : Nat} {bytes : List UInt8}
    {argv : List (List UInt8)} {place : UInt64} {copies : List UInt64}
    (one : Stores heap target index [bytes] [place] middle)
    (ends : place.toNat + bytes.length < middle.next) (grows : heap.next ≤ middle.next)
    (further : Stores middle target (index + 1) argv copies after) :
    Stores heap target index (bytes :: argv) (place :: copies) after := by
  obtain ⟨first, -⟩ := List.forall₂_cons.mp one.copied
  have behind : heap.next ≤ place.toNat := one.behind place List.mem_cons_self
  constructor
  · exact further.present
  · have next : refElementPosition (index + 1) = refElementPosition index + 16 := by
      simp only [refElementPosition_eq]
      omega
    have single : encodeTexts [place] = encodeRef (stringConstant place) := List.append_nil _
    rw [further.fields, one.fields, single, encodeTexts_cons, Block.write_append, length_encodeRef,
      next]
  · exact fun other different =>
      (further.others other different).trans (one.others other different)
  · exact fun address below =>
      (further.kept address (Nat.lt_of_lt_of_le below grows)).trans (one.kept address below)
  · exact .cons (first.of_same (further.kept place (by omega))) further.copied
  · intro copy member
    rcases List.mem_cons.mp member with rfl | later
    · exact behind
    · exact Nat.le_trans grows (further.behind copy later)
  · refine .cons (fun late member => ?_) further.apart
    exact Nat.lt_of_lt_of_le ends (further.behind late.1 (List.of_mem_zip member).1)
  · exact further.rest.trans (congrArg (fun base : Heap =>
      { base with objects := after.objects, texts := after.texts, next := after.next }) one.rest)

theorem stores_storeText {address : UInt64} {bytes : List UInt8} {index : Nat}
    (present : target.object ∈ heap.objects) (held : heap.HoldsText address bytes)
    (fits : heap.next + (bytes.length + 1) ≤ addressLimit) :
    Stores heap target index [bytes] [.ofNat heap.next] (heap.storeText target index address) ∧
      (heap.storeText target index address).next = heap.next + stride (bytes.length + 1) := by
  let place : UInt64 := .ofNat heap.next
  have lies : place.toNat = heap.next := toNat_next fits
  let copied : Heap := { heap with
    next := heap.next + stride (bytes.length + 1)
    texts := heap.texts.insert place (bytes ++ [0]) }
  let fields := (heap.fields target).write (refElementPosition index)
    (encodeRef (stringConstant place))
  have stored : heap.storeText target index address = copied.setFields target fields := by
    rw [storeText, held.textAt, copyString, placeText_of_room fits]
    rfl
  have rest : copied.setFields target fields =
      { copied with objects := (copied.setFields target fields).objects } := setFields_rest fields
  have texts : (copied.setFields target fields).texts = copied.texts := by rw [rest]
  have next : (copied.setFields target fields).next = copied.next := by rw [rest]
  rw [stored]
  refine ⟨?_, next⟩
  constructor
  · exact mem_setFields fields present
  · have single : encodeTexts [place] = encodeRef (stringConstant place) := List.append_nil _
    rw [single]
    exact fields_setFields fields present
  · exact fun other different => objects_setFields_of_ne fields different.symm
  · intro other below
    have different : place ≠ other := by
      rintro rfl
      omega
    rw [texts]
    simp only [copied, Std.TreeMap.getElem?_insert, Std.compare_eq_iff_eq, if_neg different]
  · refine .cons ⟨?_, held.whole⟩ .nil
    rw [texts]
    exact Std.TreeMap.getElem?_insert_self
  · intro copy member
    obtain rfl := List.mem_singleton.mp member
    exact Nat.le_of_eq lies.symm
  · exact List.pairwise_singleton _ _
  · rw [texts, next]
    exact rest

theorem changes_storeText (heap : Heap) (target : Ref) (index : Nat) (address : UInt64) :
    Runs Change heap [] (heap.storeText target index address) := by
  let copied := heap.copyString (heap.textAt address)
  let fields := (copied.2.fields target).write (refElementPosition index) (encodeRef copied.1)
  have placed : Change heap [] copied.2 := .text _
  have written : Change copied.2 [] (copied.2.setFields target fields) :=
    .write target fields (Block.size_write ..)
  exact (Runs.one placed).next written

/-- One copy after the other. No copy takes the address of a text that is still to be copied. -/
theorem stores_storeTexts {addresses : List UInt64} {argv : List (List UInt8)} {index : Nat}
    (inFront : heap.TextsInFront) (present : target.object ∈ heap.objects)
    (held : List.Forall₂ heap.HoldsText addresses argv)
    (room : Room heap.next (argv.map (·.length + 1))) :
    ∃ copies, Stores heap target index argv copies (heap.storeTexts target index addresses) := by
  induction addresses generalizing heap index argv with
  | nil =>
    cases held
    exact ⟨[], present, rfl, fun _ _ => rfl, fun _ _ => rfl, .nil, nofun, .nil, rfl⟩
  | cons address addresses ih =>
    obtain ⟨bytes, argv, first, others, rfl⟩ := List.forall₂_cons_left_iff.mp held
    obtain ⟨fits, further⟩ := room
    obtain ⟨reaches, -⟩ := stride_spec (bytes.length + 1)
    obtain ⟨one, next⟩ := @stores_storeText heap target address bytes index present first fits
    have lies : (UInt64.ofNat heap.next).toNat = heap.next := toNat_next fits
    have front := inFront.run (changes_storeText heap target index address)
    have still : List.Forall₂ (heap.storeText target index address).HoldsText addresses argv := by
      refine others.imp fun other text there => there.of_same (one.kept other ?_)
      exact Nat.lt_of_le_of_lt (Nat.le_add_right _ _) (there.inFront inFront)
    obtain ⟨copies, stores⟩ := @ih _ argv (index + 1) front one.present still (next ▸ further)
    rw [storeTexts_cons]
    exact ⟨.ofNat heap.next :: copies, one.cons (by omega) (by omega) stores⟩

end

/-- The two words of an element among references that were written. -/
theorem readWord64_encodeTexts (fields : Block) {copies : List UInt64} {index : Nat}
    (inside : index < copies.length) :
    (fields.write 16 (encodeTexts copies)).readWord64 (16 + 16 * index) = copies[index] ∧
      (fields.write 16 (encodeTexts copies)).readWord64 (16 + 16 * index + 8) = 0 := by
  let filled := fields.write 16 (encodeTexts copies)
  have part : filled.read (16 + 16 * index) 16 = encodeRef (stringConstant copies[index]) := by
    rw [Block.read_write_part _ _ _ (by rw [length_encodeTexts]; omega), drop_encodeTexts,
      List.drop_eq_getElem_cons inside, encodeTexts_cons]
    exact List.take_left' (length_encodeRef _)
  rw [filled.read_append (16 + 16 * index) 8 8] at part
  obtain ⟨object, table⟩ := List.append_inj part (by simp)
  exact ⟨Block.readWord64_of_read object, Block.readWord64_of_read table⟩

/-- What becomes of memory when the arguments of a program are put into an array: a new array holds
one reference for every argument but the first, in their order and with nothing between them, to a
text of its own. -/
structure Marshals (before : Heap) (argv : List (List UInt8)) (r : Ref) (copies : List UInt64)
    (after : Heap) : Prop where
  inForce : after.arrayTable? = some r.table
  /-- A table that was in force before still is. -/
  table : ∀ table ∈ before.arrayTable?, r.table = table
  fresh : r.object ∉ before.objects
  others : ∀ other ≠ r.object, after.objects[other]? = before.objects[other]?
  objectsAllocated : after.objectsAllocated = before.objectsAllocated + 1
  bytesAllocated : after.bytesAllocated =
    before.bytesAllocated + UInt64.ofNat (64 + 16 * (argv.length - 1))
  length : (after.arrayLength r).toNat = argv.length - 1
  width : after.arrayWidth r = 16
  /-- The elements take all that lies behind the header. -/
  size : (after.fields r).size = 16 + 16 * (argv.length - 1)
  elements : (after.fields r).read 16 (16 * (argv.length - 1)) = encodeTexts copies
  element : ∀ index, (inside : index + 1 < argv.length) →
    after.readRefElement r index ∈ copies.map stringConstant ∧
      (after.readRefElement r index).isNull = false ∧
      (after.readRefElement r index).table = 0 ∧
      after.textAt (after.readRefElement r index).object = argv[index + 1]
  /-- The copies lie apart from each other and behind every older text, and those stay. -/
  apart : (copies.zip argv.tail).Pairwise fun early late =>
    early.1.toNat + early.2.length < late.1.toNat
  behind : ∀ copy ∈ copies, ∀ (address : UInt64) (text : List UInt8),
    before.texts[address]? = some text → address.toNat + text.length ≤ copy.toNat
  kept : ∀ address ∈ before.texts, after.texts[address]? = before.texts[address]?
  /-- Whatever becomes of the older texts, the arguments read the same. -/
  lasting : ∀ later : Heap, later.objects[r.object]? = after.objects[r.object]? →
    (∀ address, address ∉ before.texts → later.texts[address]? = after.texts[address]?) →
    ∀ index, (inside : index + 1 < argv.length) →
      later.textAt (later.readRefElement r index).object = argv[index + 1]

section
variable {before made after : Heap} {argv : List (List UInt8)} {r : Ref} {copies : List UInt64}

/-- What happened to dispatch tables before does not matter, unless one was in force. -/
theorem Marshals.of_tables {first : Heap} (marshals : Marshals before argv r copies after)
    (rest : before = { first with
      tables := before.tables
      next := before.next
      defaultArrayTable := before.defaultArrayTable })
    (kept : ∀ table ∈ first.arrayTable?, table ∈ before.arrayTable?) :
    Marshals first argv r copies after := by
  have objects : before.objects = first.objects := by rw [rest]
  have texts : before.texts = first.texts := by rw [rest]
  have counted : before.objectsAllocated = first.objectsAllocated ∧
      before.bytesAllocated = first.bytesAllocated := by
    rw [rest]
    exact ⟨rfl, rfl⟩
  obtain ⟨inForce, table, fresh, others, objectsAllocated, bytesAllocated, length, width, size,
    elements, element, apart, behind, unchanged, lasting⟩ := marshals
  rw [objects] at fresh others
  rw [texts] at behind unchanged lasting
  rw [counted.1] at objectsAllocated
  rw [counted.2] at bytesAllocated
  exact ⟨inForce, fun other there => table other (kept other there), fresh, others,
    objectsAllocated, bytesAllocated, length, width, size, elements, element, apart, behind,
    unchanged, lasting⟩

/-- Every element refers to the copy of its argument. -/
theorem exists_copy {fields : Block}
    (filled : after.fields r = fields.write 16 (encodeTexts copies))
    (copied : List.Forall₂ after.HoldsText copies argv.tail) {index : Nat}
    (inside : index + 1 < argv.length) :
    ∃ copy ∈ copies, after.readRefElement r index = stringConstant copy ∧
      after.HoldsText copy argv[index + 1] := by
  obtain ⟨many, each⟩ := List.forall₂_iff_get.mp copied
  rw [List.length_tail] at many
  have near : index < copies.length := by omega
  obtain ⟨object, table⟩ := readWord64_encodeTexts fields near
  rw [← filled] at object table
  have held := each index near (by rw [List.length_tail]; omega)
  refine ⟨copies[index], List.getElem_mem near, ?_, ?_⟩
  · rw [readRefElement, refElementPosition_eq]
    exact Ref.mk.injEq .. ▸ ⟨object, table⟩
  · simpa only [List.get_eq_getElem, List.getElem_tail] using held

/-- An array is added, and then its elements are stored. -/
theorem marshals_of_stores (inFront : before.TextsInFront) {length : UInt32}
    (exact : length.toNat = argv.length - 1)
    (adds : Adds before (arrayPayload length Format.referenceSize) r made)
    (inForce : before.arrayTable? = some r.table)
    (header : made.fields r = writeArrayHeader
      (.zeroed (arrayPayload length Format.referenceSize)) length Format.referenceSize)
    (texts : made.texts = before.texts) (grows : before.next < made.next)
    (stores : Stores made r 0 argv.tail copies after) : Marshals before argv r copies after := by
  have many : copies.length = argv.length - 1 := by
    rw [stores.copied.length_eq, List.length_tail]
  have payload : arrayPayload length Format.referenceSize = 16 + 16 * (argv.length - 1) := by
    have width : Format.referenceSize.toNat = 16 := rfl
    have start : Format.arrayHeaderSize.toNat = 16 := rfl
    rw [arrayPayload, exact, width, start]
    omega
  have fields : after.fields r = (made.fields r).write 16 (encodeTexts copies) := stores.fields
  have old (address : UInt64) (text : List UInt8) (found : before.texts[address]? = some text) :
      address.toNat + text.length < made.next :=
    Nat.lt_of_le_of_lt (inFront address text found) grows
  have known (address : UInt64) (present : address ∈ before.texts) :
      address.toNat < made.next := by
    obtain ⟨text, found⟩ := Option.isSome_iff_exists.mp
      (Std.TreeMap.mem_iff_isSome_getElem?.mp present)
    exact Nat.lt_of_le_of_lt (Nat.le_add_right _ _) (old address text found)
  have new (copy : UInt64) (member : copy ∈ copies) : copy ∉ before.texts := fun present =>
    Nat.not_lt_of_le (stores.behind copy member) (known copy present)
  have rest := stores.rest
  have kept : after.arrayTable? = before.arrayTable? := by
    rw [rest]
    exact adds.arrayTable?
  constructor
  · exact kept.trans inForce
  · exact fun table there => Option.some.inj (inForce.symm.trans there)
  · exact adds.fresh
  · exact fun other different =>
      (stores.others other different).trans (adds.others other different)
  · rw [rest]
    exact adds.objectsAllocated
  · rw [rest]
    refine adds.bytesAllocated.trans ?_
    rw [payload, ← Nat.add_assoc]
  · rw [arrayLength, fields, Block.readWord32,
      Block.read_write_of_disjoint _ _ _ _ _ (.inl (by decide)), ← Block.readWord32, header,
      arrayLength_writeArrayHeader, exact]
  · rw [arrayWidth, fields, Block.readWord64,
      Block.read_write_of_disjoint _ _ _ _ _ (.inl (by decide)), ← Block.readWord64, header]
    exact Block.readWord64_writeWord64 ..
  · rw [fields, Block.size_write, adds.size, payload]
  · have stored := (made.fields r).read_write 16 (encodeTexts copies)
    rwa [length_encodeTexts, many, ← fields] at stored
  · intro index inside
    obtain ⟨copy, member, found, held⟩ := exists_copy fields stores.copied inside
    rw [found]
    refine ⟨List.mem_map_of_mem member, ?_, rfl, held.textAt⟩
    have positive : 0 < copy.toNat :=
      Nat.lt_of_lt_of_le (Nat.zero_lt_of_lt grows) (stores.behind copy member)
    refine beq_eq_false_iff_ne.mpr fun null => ?_
    rw [show copy = 0 from null] at positive
    contradiction
  · exact stores.apart
  · exact fun copy member address text found =>
      Nat.le_of_lt (Nat.lt_of_lt_of_le (old address text found) (stores.behind copy member))
  · intro address present
    rw [stores.kept address (known address present), texts]
  · intro later same untouched index inside
    obtain ⟨copy, member, found, held⟩ := exists_copy fields stores.copied inside
    have reread : later.readRefElement r index = after.readRefElement r index := by
      simp only [readRefElement, Heap.fields, object?, same]
    rw [reread, found]
    exact (held.of_same (untouched copy (new copy member))).textAt

/-- Sizes of the regions that an argument array takes: its own, and one for every copy. -/
def argumentSizes (argv : List (List UInt8)) : List Nat :=
  (64 + 16 * (argv.length - 1)) :: argv.tail.map (·.length + 1)

theorem marshals_marshalArguments (tidy : before.Tidy) (inFront : before.TextsInFront)
    {arguments : List UInt64} (held : List.Forall₂ before.HoldsText arguments argv)
    (few : argv.length < UInt32.size) {table : UInt64} (inForce : before.arrayTable? = some table)
    (room : Room before.next (argumentSizes argv)) :
    ∃ r copies after, before.marshalArguments arguments table = .ok (r, after) ∧
      Marshals before argv r copies after := by
  obtain ⟨fits, further⟩ := room
  have count : (arguments.drop 1).length = argv.length - 1 := by
    rw [List.length_drop, held.length_eq]
  have exact : (UInt32.ofNat (arguments.drop 1).length).toNat = argv.length - 1 := by
    rw [count]
    exact UInt32.toNat_ofNat_of_lt' (by omega)
  generalize named : UInt32.ofNat (arguments.drop 1).length = length at exact
  have payload : 48 + arrayPayload length Format.referenceSize = 64 + 16 * (argv.length - 1) := by
    have width : Format.referenceSize.toNat = 16 := rfl
    have start : Format.arrayHeaderSize.toNat = 16 := rfl
    rw [arrayPayload, exact, width, start]
    omega
  have small : arrayPayload length Format.referenceSize + 48 ≤ 2 ^ 63 - 16 := by
    simp only [UInt32.size] at few
    omega
  obtain ⟨r, made, allocated, rfl, adds, header⟩ := tidy.allocateArray small (payload ▸ fits) table
  obtain ⟨texts, -, -, next⟩ := allocateArray_eq_ok allocated
  obtain ⟨reaches, -⟩ := stride_spec (64 + 16 * (argv.length - 1))
  rw [payload] at next
  have still : List.Forall₂ made.HoldsText (arguments.drop 1) argv.tail := by
    rw [← List.drop_one]
    exact (List.forall₂_drop 1 held).imp fun address bytes there => there.of_same (by rw [texts])
  obtain ⟨copies, stores⟩ := @stores_storeTexts made r _ _ 0
    (inFront.keeps (.array allocated)) adds.present still (next ▸ further)
  refine ⟨r, copies, made.storeTexts r 0 (arguments.drop 1), ?_,
    marshals_of_stores inFront exact adds inForce header texts (by omega) stores⟩
  rw [marshalArguments, named, allocated]
  rfl

end
end ManagedRuntime.Heap
