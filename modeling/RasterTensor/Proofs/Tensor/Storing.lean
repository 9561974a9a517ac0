import RasterTensor.Proofs.Tensor.Chunks
import RasterTensor.Proofs.Tensor.Creation
import RasterTensor.Proofs.Tensor.Indexing
import RasterTensor.Proofs.Tensor.Reading
import RasterTensor.Proofs.Tensor.Strides

/-!
# Storing arrays

What is supplied as an array is stored completely or not at all. A file that was completed holds
the elements in order and is read back as the same elements; every failure leaves all files as
they were, and those of the file system are reported for the path of the tensor file.
-/

namespace RasterTensor

open Binary Document Files

/-! ## Free path names -/

namespace Files.Tree

variable {t : Tree} {path : PathName} {place : Location}

/-- A path name in a directory that is there, with nothing of its own name. -/
def Free (t : Tree) (path : PathName) : Prop :=
  ∃ place, t.locate path = .ok place ∧ t.get? place = none

theorem walk_ne_alreadyExists (t : Tree) (place : Location) (parts : List Name) :
    t.walk place parts ≠ .error .alreadyExists := by
  induction parts generalizing place with
  | nil =>
      intro h
      cases h
  | cons part rest ih =>
      unfold walk
      split
      · intro h
        cases h
      · intro h
        cases h
      · split
        · intro h
          cases h
        · exact ih _

theorem locate_ne_alreadyExists (t : Tree) (path : PathName) (shown : String) :
    t.locate path ≠ .error (.refused .alreadyExists shown) := by
  unfold locate follow
  split
  · intro h
    cases h
  · have hwalk := t.walk_ne_alreadyExists (if path.slashes != 0 then [] else t.home) path.parts
    dsimp only
    split
    · intro h
      cases h
    · cases hfound : t.walk (if path.slashes != 0 then [] else t.home) path.parts with
      | ok place =>
          intro h
          cases h
      | error fault =>
          intro h
          cases h
          exact hwalk hfound

theorem look_of_create_alreadyExists {shown : String}
    (h : t.create path = .error (.refused .alreadyExists shown)) :
    ∃ e, t.look path = .ok (some e) := by
  unfold create at h
  cases hplace : t.locate path with
  | error e =>
      rw [hplace] at h
      cases h
      exact absurd hplace (t.locate_ne_alreadyExists path shown)
  | ok place =>
      cases hentry : t.get? place with
      | some e => exact ⟨e, look_eq_some_iff.mpr ⟨place, hplace, hentry⟩⟩
      | none =>
          simp only [hplace, ok_bind, hentry] at h
          cases h

end Files.Tree

/-! ## Completely or not at all -/

variable {writer : Writer} {supplied : Supplied} {path : PathName} {s s' : Scene}

theorem play_writeSupplied_error {f : Failure} (h : supplied.toContent = .error f) :
    (writeSupplied writer supplied path).play s = (.error f, s) := by
  rw [writeSupplied, Step.play_bind, h]
  rfl

theorem play_writeSupplied_ok {content : Content} (h : supplied.toContent = .ok content) :
    (writeSupplied writer supplied path).play s = (writeTensor writer content path).play s := by
  rw [writeSupplied, Step.play_bind, h]
  rfl

/-- Why storing fails, and the failure that is reported for it. -/
inductive StoreFailure (writer : Writer) (supplied : Supplied) (path : PathName) (t : Tree) :
    Failure → Prop
  | unsuitable (f : Failure) (h : supplied.toContent = .error f) :
      StoreFailure writer supplied path t f
  | occupied (content : Content) (hcontent : supplied.toContent = .ok content) (e : Entry)
      (h : t.look path = .ok (some e)) :
      StoreFailure writer supplied path t (.write path.text occupied)
  | refused (content : Content) (hcontent : supplied.toContent = .ok content)
      (fault : Files.Fault) (shown : String) (hfault : fault ≠ .alreadyExists)
      (h : t.create path = .error (.refused fault shown)) :
      StoreFailure writer supplied path t
        (.write path.text (Files.Error.message (.refused fault shown)))
  | unnamed (content : Content) (hcontent : supplied.toContent = .ok content)
      (h : t.create path = .error .embeddedNul) :
      StoreFailure writer supplied path t (.file .embeddedNul)
  | interrupted (content : Content) (cause : Failure)
      (hcontent : supplied.toContent = .ok content) (hfree : t.Free path)
      (houtcome : (writer content.bytes).outcome = .error cause)
      (hcause : cause.isSystem = false) :
      StoreFailure writer supplied path t cause
  | unwritten (content : Content) (cause : Failure)
      (hcontent : supplied.toContent = .ok content) (hfree : t.Free path)
      (houtcome : (writer content.bytes).outcome = .error cause)
      (hcause : cause.isSystem = true) :
      StoreFailure writer supplied path t (.write path.text cause.message)

theorem StoreFailure.of_create {content : Content} {e : Files.Error} {t : Tree}
    (hcontent : supplied.toContent = .ok content) (h : t.create path = .error e) :
    StoreFailure writer supplied path t (creationFailure path e) := by
  cases e with
  | embeddedNul => exact .unnamed content hcontent h
  | refused fault shown =>
      cases fault with
      | alreadyExists =>
          obtain ⟨e, hlook⟩ := Tree.look_of_create_alreadyExists h
          exact .occupied content hcontent e hlook
      | notFound | notDirectory | isDirectory | nameTooLong =>
          exact .refused content hcontent _ shown (by decide) h

theorem stored_of_writeSupplied {n : Nat} (hwriter : writer.Faithful)
    (h : (writeSupplied writer supplied path).play s = (.ok n, s')) :
    ∃ content, supplied.toContent = .ok content ∧ s.tree.Free path ∧
      (writer content.bytes).outcome = .ok n ∧ n = content.bytes.size ∧
      s'.tree.read path = .ok content.bytes ∧
      ∀ other, s.tree.locate path ≠ .ok other → s'.tree.get? other = s.tree.get? other := by
  cases hcontent : supplied.toContent with
  | error f =>
      rw [play_writeSupplied_error hcontent] at h
      cases h
  | ok content =>
      rw [play_writeSupplied_ok hcontent] at h
      obtain ⟨place, notes, hplace, hnone, houtcome, rfl⟩ := writeTensor_eq_ok h
      obtain ⟨hreceived, hsize⟩ := hwriter _ _ houtcome
      have hfree : s.tree.get? place ≠ some .directory := by simp [hnone]
      have hput := Tree.look_put hplace hfree (.file (writer content.bytes).received)
      rw [hreceived] at hput
      refine ⟨content, rfl, ⟨place, hplace, hnone⟩, houtcome, hsize, ?_, ?_⟩
      · rw [hreceived]
        exact Tree.read_of_look hput
      · intro other hother
        have hne : other ≠ place := fun heq => hother (heq ▸ hplace)
        exact Tree.get?_put_of_ne _ _ hne

theorem unchanged_of_writeSupplied {f : Failure}
    (h : (writeSupplied writer supplied path).play s = (.error f, s')) :
    s'.tree = s.tree ∧ StoreFailure writer supplied path s.tree f := by
  cases hcontent : supplied.toContent with
  | error g =>
      rw [play_writeSupplied_error hcontent] at h
      cases h
      exact ⟨rfl, .unsuitable _ hcontent⟩
  | ok content =>
      have hend := writeEnd_writeTensor writer content path s
      rw [← play_writeSupplied_ok hcontent, h] at hend
      cases hend with
      | refused e hcreate => exact ⟨rfl, .of_create hcontent hcreate⟩
      | abandoned place cause notes hplace hnone houtcome =>
          have hfree : s.tree.Free path := ⟨place, hplace, hnone⟩
          refine ⟨rfl, ?_⟩
          unfold writingFailure
          split
          · next hcause => exact .unwritten content cause hcontent hfree houtcome hcause
          · next hcause =>
            exact .interrupted content cause hcontent hfree houtcome (Bool.eq_false_iff.mpr hcause)

/-- Storing what was supplied succeeds with all of its bytes in a new file and no other change, or
fails with no change of the files at all. What has no bytes is refused before a file is made. A
failure of the file system is reported for the path of the tensor file, every other one as it
is. -/
theorem writeSupplied_allOrNothing (hwriter : writer.Faithful) (supplied : Supplied)
    (path : PathName) (s : Scene) :
    (∀ n s', (writeSupplied writer supplied path).play s = (.ok n, s') →
      ∃ content, supplied.toContent = .ok content ∧ s.tree.Free path ∧
        (writer content.bytes).outcome = .ok n ∧ n = content.bytes.size ∧
        s'.tree.read path = .ok content.bytes ∧
        ∀ other, s.tree.locate path ≠ .ok other → s'.tree.get? other = s.tree.get? other) ∧
    (∀ f s', (writeSupplied writer supplied path).play s = (.error f, s') →
      s'.tree = s.tree ∧ StoreFailure writer supplied path s.tree f) ∧
    ∀ f, supplied.toContent = .error f →
      (writeSupplied writer supplied path).play s = (.error f, s) := by
  refine ⟨?_, ?_, ?_⟩
  · intro n s' h
    exact stored_of_writeSupplied hwriter h
  · intro f s' h
    exact unchanged_of_writeSupplied h
  · intro f h
    exact play_writeSupplied_error h

/-- Two bytes, written until the third is due and the run is interrupted, beside another file. -/
theorem writeSupplied_allOrNothing_interrupted :
    ∃ s', (writeSupplied (.failing 2 (.foreign ⟨"KeyboardInterrupt", "", .interrupt⟩))
        (.array (.packed .bytes [3] ⟨#[1, 2, 3]⟩)) (.ofText "o.bin")).play
          (.opening ⟨[([['a']], .file ⟨#[7]⟩)], []⟩) =
        (.error (.foreign ⟨"KeyboardInterrupt", "", .interrupt⟩), s') ∧
      s'.tree = ⟨[([['a']], .file ⟨#[7]⟩)], []⟩ := by
  generalize hplay : (writeSupplied (.failing 2 (.foreign ⟨"KeyboardInterrupt", "", .interrupt⟩))
    (.array (.packed .bytes [3] ⟨#[1, 2, 3]⟩)) (.ofText "o.bin")).play
      (.opening ⟨[([['a']], .file ⟨#[7]⟩)], []⟩) = outcome
  obtain ⟨hok, herror, -⟩ := writeSupplied_allOrNothing
    (Writer.faithful_failing 2 (.foreign ⟨"KeyboardInterrupt", "", .interrupt⟩))
    (.array (.packed .bytes [3] ⟨#[1, 2, 3]⟩)) (.ofText "o.bin")
    (.opening ⟨[([['a']], .file ⟨#[7]⟩)], []⟩)
  obtain ⟨f | n, s'⟩ := outcome
  · obtain ⟨htree, hfailure⟩ := herror f s' hplay
    refine ⟨s', ?_, htree⟩
    cases hfailure with
    | unsuitable f h => cases h
    | occupied content hcontent e h => cases h
    | refused content hcontent fault shown hfault h => cases h
    | unnamed content hcontent h => cases h
    | interrupted content cause hcontent hfree houtcome hcause =>
        cases houtcome
        rfl
    | unwritten content cause hcontent hfree houtcome hcause =>
        cases houtcome
        cases hcause
  · obtain ⟨content, -, -, houtcome, -⟩ := hok n s' hplay
    cases houtcome

/-! ## Reading a stored array back -/

/-- The kind of numbers that elements are stored as. -/
def ElementType.kind : ElementType → ScalarKind
  | .float32 => .real
  | .int32 => .signed
  | .quantized8 => .unsigned

/-- Whether array elements are those of an element type, in either byte order. -/
structure ElementType.Matches (element : ElementType) (t : ScalarType) : Prop where
  kind_eq : t.kind = element.kind
  size_eq : t.size = element.size

theorem ElementType.Matches.wordSize_eq {element : ElementType} {t : ScalarType}
    (h : element.Matches t) : t.wordSize = element.size := by
  have hkind : t.kind ≠ .complex := by
    rw [h.kind_eq]
    cases element <;> decide
  rw [ScalarType.wordSize, if_neg hkind, h.size_eq]

namespace StridedArray

variable {a : StridedArray} {element : ElementType}

/-- The elements as those of a tensor with one axis. -/
def toTensor (a : StridedArray) (element : ElementType) : Tensor :=
  ⟨element, [a.count], (a.numbers.map UInt32.ofNat).toArray⟩

theorem toList_words_toTensor (h : element.Matches a.type) :
    (a.toTensor element).words.toList.map UInt32.toNat = a.numbers := by
  rw [toTensor, List.map_map]
  refine (List.map_congr_left fun n hn => ?_).trans a.numbers.map_id
  have hlt := lt_of_mem_numbers hn
  rw [h.wordSize_eq] at hlt
  have hword : n < 2 ^ 32 := Nat.lt_of_lt_of_le hlt (by cases element <;> decide)
  exact UInt32.toNat_ofNat_of_lt hword

theorem bytes_toTensor (ha : a.Regular) (h : element.Matches a.type) :
    (a.toTensor element).bytes = a.content := by
  apply ByteArray.ext
  apply Array.toList_inj.mp
  rw [← Text.toList_eq, ← Text.toList_eq, Tensor.toList_bytes,
    toList_content ha.divided ha.length_strides, ← toList_words_toTensor h, List.flatMap_map,
    h.wordSize_eq]
  rfl

theorem wordsOfBytes_content (ha : a.Regular) (h : element.Matches a.type) :
    Tensor.wordsOfBytes element a.content = (a.toTensor element).words := by
  have hfits : (a.toTensor element).Fits := by
    intro w hw
    have hmem : w.toNat ∈ a.numbers := by
      rw [← toList_words_toTensor h]
      exact List.mem_map_of_mem (Array.mem_toList_iff.mpr hw)
    have hlt := lt_of_mem_numbers hmem
    rwa [h.wordSize_eq] at hlt
  rw [← bytes_toTensor ha h]
  exact hfits.wordsOfBytes_bytes

theorem exists_play_writeSupplied {device : Device} (hnumeric : a.type.kind ≠ .reference)
    (hdevice : device.Accepting) (hfree : s.tree.Free path) :
    ∃ s', (writeSupplied (.chunked device) (.array a) path).play s =
        (.ok (a.count * a.type.size), s') ∧
      s'.tree.read path = .ok a.content := by
  have hcontent : (Supplied.array a).toContent = .ok ⟨a.content, a.count⟩ := if_neg hnumeric
  have hsize := a.size_content
  cases hplay : (writeSupplied (.chunked device) (.array a) path).play s with
  | mk outcome s' =>
      cases outcome with
      | ok n =>
          obtain ⟨content, heq, -, -, hn, hread, -⟩ :=
            stored_of_writeSupplied (Writer.faithful_chunked device) hplay
          obtain rfl := Except.ok.inj (hcontent.symm.trans heq)
          exact ⟨s', by rw [hn, ← hsize], hread⟩
      | error f =>
          -- On a free path name only the device can fail.
          obtain ⟨place, hplace, hnone⟩ := hfree
          have hend := writeEnd_writeTensor (.chunked device) ⟨a.content, a.count⟩ path s
          rw [← play_writeSupplied_ok hcontent, hplay] at hend
          cases hend with
          | refused e hcreate =>
              have hcreated := Tree.create_eq_ok_iff.mpr ⟨hplace, hnone, rfl⟩
              rw [hcreate] at hcreated
              cases hcreated
          | abandoned place cause notes _ _ houtcome =>
              rw [Writer.outcome_chunked hdevice] at houtcome
              cases houtcome

end StridedArray

/-- An array of numbers is stored at a free path name as its elements in order, each in the
bytes of its words from the least significant one up. An array of one of the element types is read
back as the same elements: along one axis, or in the shape of a layout with as many elements. -/
theorem readTensor_of_writeSupplied {a : StridedArray} {device : Device} {shown : String}
    {s : Scene} (ha : a.Regular) (hnumeric : a.type.kind ≠ .reference)
    (hdevice : device.Accepting) (hfree : s.tree.Free (.ofText shown)) :
    ∃ s' bytes,
      (writeSupplied (.chunked device) (.array a) (.ofText shown)).play s =
        (.ok (a.count * a.type.size), s') ∧
      s'.tree.read (.ofText shown) = .ok bytes ∧ bytes.size = a.count * a.type.size ∧
      bytes.toList = a.numbers.flatMap (littleEndian a.type.wordSize) ∧
      ∀ element : ElementType, element.Matches a.type →
        ∃ words : Array UInt32, words.toList.map UInt32.toNat = a.numbers ∧
          ∀ reach elementType, ElementType.ofValue reach elementType = .ok element →
            (∀ layout, readTensor reach s'.tree shown elementType .null .null layout =
              .ok ⟨element, [a.count], words⟩) ∧
            ∀ (h w : Nat) layoutValue layout, Layout.ofValue reach layoutValue = .ok layout →
              1 ≤ h → 1 ≤ w → a.count = 3 * h * w →
                readTensor reach s'.tree shown elementType (.int h) (.int w) layoutValue =
                  .ok ⟨element, layout.shape h w, words⟩ := by
  obtain ⟨s', hplay, hread⟩ := a.exists_play_writeSupplied hnumeric hdevice hfree
  have hsize := a.size_content
  refine ⟨s', a.content, hplay, hread, hsize,
    StridedArray.toList_content ha.divided ha.length_strides, fun element hmatches => ?_⟩
  rw [hmatches.size_eq] at hsize
  have hwords := StridedArray.wordsOfBytes_content ha hmatches
  refine ⟨(a.toTensor element).words, StridedArray.toList_words_toTensor hmatches,
    fun reach elementType helement => ⟨fun layout => ?_, ?_⟩⟩
  · rw [readTensor_flat helement hread hsize, hwords]
  · intro h w layoutValue layout hlayout hh hw hcount
    have hcells : elementCount (layout.shape h w) = a.count := by
      rw [layout.elementCount_shape, hcount, Nat.mul_comm, Nat.mul_assoc]
    have hpos : 0 < elementCount (layout.shape h w) := by
      rw [hcells, hcount]
      exact Nat.mul_pos (Nat.mul_pos (by decide) hh) hw
    rw [← hwords]
    exact readTensor_shaped helement hlayout hread (by rw [hcells]; exact hsize) hpos
      (by rw [hcells]; exact ha.count_le)

/-- Two rows of three numbers with the top byte first, seen with their axes exchanged and one of
them reversed, through a device that takes five bytes at first. -/
def crossedArray : StridedArray :=
  ((StridedArray.packed ⟨.real, 4, true⟩ [2, 3]
    ⟨(Array.range 24).map UInt8.ofNat⟩).transpose).reverseAxis 0

theorem readTensor_of_writeSupplied_crossed :
    ∃ s', (writeSupplied (.chunked (.ofList [.accept 5])) (.array crossedArray)
        (.ofText "o.bin")).play (.opening ⟨[], []⟩) = (.ok 24, s') ∧
      ∃ words : Array UInt32,
        words.toList.map UInt32.toNat = [0x08090A0B, 0x14151617, 0x04050607, 0x10111213,
          0x00010203, 0x0C0D0E0F] ∧
        readTensor .flat s'.tree "o.bin" (.text "float") (.int 1) (.int 2) (.text "nchw") =
          .ok ⟨.float32, [1, 3, 1, 2], words⟩ := by
  have hregular : crossedArray.Regular :=
    ⟨ScalarType.divided_of_size_mem (by decide), rfl, by decide⟩
  have hdevice : (Device.ofList [.accept 5]).Accepting := by
    apply Device.accepting_ofList
    intro response hresponse
    obtain rfl := List.mem_singleton.mp hresponse
    exact Nat.succ_pos 4
  have hfree : (Scene.opening ⟨[], []⟩).tree.Free (.ofText "o.bin") :=
    ⟨[['o', '.', 'b', 'i', 'n']], rfl, rfl⟩
  obtain ⟨s', bytes, hplay, -, -, -, hreadings⟩ :=
    readTensor_of_writeSupplied hregular (by decide) hdevice hfree
  obtain ⟨words, hwords, hreading⟩ := hreadings .float32 ⟨rfl, rfl⟩
  have hshaped := (hreading .flat (.text "float") rfl).2 1 2 (.text "nchw") .nchw rfl (by decide)
    (by decide) rfl
  exact ⟨s', hplay, words, hwords.trans (by decide +kernel), hshaped⟩

end RasterTensor
