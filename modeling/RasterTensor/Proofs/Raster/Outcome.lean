import RasterTensor.Proofs.Raster.Size

/-!
# How loading an image ends

Loading gives an image or a failure to load its path, with one exception: the fault of a malformed
chunk escapes when the chunk stands within the image data of a portable network graphic or behind
it. Every other fault of decoding is reported.
-/

namespace RasterTensor.Raster

open Document Files

variable {α β : Type}

/-- All faults of a computation are reported as failures to load. -/
abbrev Reports (x : Except Fault α) : Prop := Ends (fun _ => True) (fun f => f.escapes = false) x

namespace Reports

variable {x : Except Fault α}

theorem bind {g : α → Except Fault β} (hx : Reports x) (hg : ∀ a, Reports (g a)) :
    Reports (x >>= g) := Ends.bind hx fun a _ => hg a

theorem mapM {g : α → Except Fault β} (hg : ∀ a, Reports (g a)) (l : List α) :
    Reports (l.mapM g) := (Ends.mapM fun a _ => hg a).imp (fun _ _ => trivial) fun _ hf => hf

end Reports

/-! ## Portable maps -/

namespace Pnm

variable {h : Header}

theorem reports_headerToken (token bytes : List UInt8) : Reports (headerToken token bytes) := by
  fun_induction headerToken token bytes with
  | case1 => exact .error rfl
  | case2 => exact .ok trivial
  | case3 token b rest hblank hempty ih => exact ih
  | case4 => exact .ok trivial
  | case5 token rest hblank ih => exact ih
  | case6 => exact .error rfl
  | case7 token b rest hblank hcomment hlength ih => exact ih

theorem reports_integerOfToken (token : List UInt8) : Reports (integerOfToken token) := by
  unfold integerOfToken
  split
  · exact .ok trivial
  · exact .error rfl

theorem reports_headerInteger (bytes : List UInt8) : Reports (headerInteger bytes) :=
  (reports_headerToken [] bytes).bind fun _ => (reports_integerOfToken _).bind fun _ => .ok trivial

theorem reports_readHeader? (bytes : List UInt8) : Reports (readHeader? bytes) := by
  unfold readHeader?
  dsimp only
  split
  · exact .ok trivial
  · refine (reports_headerInteger _).bind fun _ => (reports_headerInteger _).bind fun _ => ?_
    refine .ite (.ok trivial) ((reports_headerInteger _).bind fun _ => ?_)
    exact .guard rfl (.ok trivial)

theorem escapes_of_tooLong? {token : List UInt8} {f : Fault} (hf : tooLong? token = some f) :
    f.escapes = false := by
  unfold tooLong? at hf
  split at hf
  · cases hf
    rfl
  · cases hf

theorem reports_plainSample (token : List UInt8) : Reports (plainSample h token) := by
  have hrest : Reports (do
      let v ← integerOfToken token
      if v < 0 then throw (.negativeSample v)
      if (h.greatest : Int) < v then throw (.largeSample v)
      return rescale v.toNat h.greatest h.range) :=
    (reports_integerOfToken token).bind fun _ => .guard rfl (.guard rfl (.ok trivial))
  unfold plainSample
  split
  · next hlong => exact .error (escapes_of_tooLong? hlong)
  · exact hrest

theorem reports_plainBits : Reports (plainBits h) := by
  unfold plainBits
  dsimp only
  split
  · exact .error rfl
  · exact .guard rfl (.ok trivial)

theorem reports_plainSamples : Reports (plainSamples h) := by
  unfold plainSamples
  have hsamples (tokens : List (List UInt8)) : Reports (tokens.mapM (plainSample h)) :=
    .mapM (fun _ => reports_plainSample _) tokens
  dsimp only
  split
  · refine .ite ?_ ((hsamples _).bind fun _ => .guard rfl (.ok trivial))
    split
    · next hlong => exact .error (escapes_of_tooLong? hlong)
    · exact (hsamples _).bind fun _ => .guard rfl (.ok trivial)
  · exact (hsamples _).bind fun _ => .guard rfl (.ok trivial)

theorem reports_storedRows (mode : Mode) (change : UInt8 → UInt8) :
    Reports (storedRows h mode change) := .ite (.error rfl) (.ok trivial)

theorem reports_scaledSamples : Reports (scaledSamples h) := .ite (.error rfl) (.ok trivial)

theorem Header.reports_decode (h : Header) : Reports h.decode := by
  unfold decode
  split
  · exact reports_plainBits
  · exact reports_plainSamples
  · exact reports_storedRows _ _
  · exact .ite (.ite (.error rfl) (reports_storedRows _ _))
      (.ite (reports_storedRows _ _) reports_scaledSamples)
  · exact .ite (reports_storedRows _ _) reports_scaledSamples

end Pnm

/-! ## Bitmap files -/

namespace Bmp

variable {file : ByteArray}

theorem escapes_of_readHeader {f : Fault} (h : readHeader file = .error (.fault f)) :
    f.escapes = false := by
  unfold readHeader at h
  dsimp only at h
  split at h
  · cases h
  · split at h
    · cases h
      rfl
    · split at h
      · cases h
      · split at h
        · cases h
        · cases h
          rfl

theorem Header.reports_check (h : Header) : Reports h.check :=
  .ite (.error rfl) (.ite (.error rfl) (.ite (.error rfl) (.ok trivial)))

theorem reports_decode (h : Header) : Reports (decode file h) := by
  unfold decode
  exact .guard rfl (.guard rfl (.guard rfl (.ite (.ok trivial) (.ok trivial))))

end Bmp

/-! ## Portable network graphics -/

namespace Png

variable {file : ByteArray} {h h' : Header} {c : Chunk} {position : Nat}

theorem escapes_of_ofFault {f g : Fault} (hfault : HeaderFault.ofFault f = .fault g) :
    g.escapes = false := by
  unfold HeaderFault.ofFault at hfault
  split at hfault
  · cases hfault
  · next hf =>
    cases hfault
    exact Bool.eq_false_iff.mpr hf

theorem escapes_of_readHeader {fuel : Nat} {f : Fault}
    (hread : readHeader file fuel position h = .error (.fault f)) : f.escapes = false := by
  induction fuel generalizing position h with
  | zero => cases hread
  | succ fuel ih =>
      unfold readHeader at hread
      split at hread
      · cases hread
      · split at hread
        · cases hread
        · split at hread
          · cases hread
          · split at hread
            · cases hread
              rfl
            · split at hread
              · exact escapes_of_ofFault (Except.error.inj hread)
              · split at hread
                · exact ih hread
                · cases hread

/-- Where the data of neighbouring chunks of image data, from the first one on, stops. -/
inductive DataStops (file : ByteArray) (first : Chunk) : Nat → Prop
  | first : DataStops file first first.stop
  | next {stop : Nat} {c : Chunk} (hstop : DataStops file first stop)
      (hchunk : chunkAfter file stop = .ok c) (hdata : c.isData) : DataStops file first c.stop

/-- Whole chunks behind a position are taken up to another one. -/
inductive Takes (file : ByteArray) (stop : Nat) (h : Header) : Nat → Header → Prop
  | none : Takes file stop h stop h
  | next {stop' : Nat} {h' h'' : Header} {c : Chunk} (htakes : Takes file stop h stop' h')
      (hchunk : chunkAfter file stop' = .ok c) (hend : ¬ c.isNamed "IEND")
      (hwhole : c.stop ≤ file.size) (htake : h'.take c (c.data file) = .ok h'') :
      Takes file stop h c.stop h''

/-- The malformed chunk of a graphic that is found too late, with its fault: a chunk without a name
after chunks of image data, or one that cannot be taken behind them. -/
inductive Malformed (file : ByteArray) (h : Header) (first : Chunk) : Fault → Prop
  | unnamed {stop : Nat} {name : List UInt8} (hstop : DataStops file first stop)
      (hchunk : chunkAfter file stop = .error (.unnamed name)) :
      Malformed file h first (.brokenChunk name)
  | chunk {stop stop' : Nat} {h' : Header} {c : Chunk} {f : Fault}
      (hstop : DataStops file first stop) (htakes : Takes file stop h stop' h')
      (hchunk : chunkAfter file stop' = .ok c) (hwhole : c.stop ≤ file.size)
      (htake : h'.take c (c.data file) = .error f) : Malformed file h first f

/-- A fault that escapes comes of a malformed chunk. -/
def Accounted (file : ByteArray) (h : Header) (first : Chunk) (f : Fault) : Prop :=
  f.escapes = true → Malformed file h first f

theorem accounted_of_reported {first : Chunk} {f : Fault} (hf : f.escapes = false) :
    Accounted file h first f := fun hescapes => by simp [hf] at hescapes

/-! ### The image data -/

theorem chunkAfter_of_le {stop : Nat} (hstop : file.size ≤ stop) :
    chunkAfter file stop = .error .cut := by
  have hhead : (file.extract file.size (file.size + 8)).size < 4 := by
    simp [ByteArray.size_extract]
  rw [chunkAfter, Nat.min_eq_left (by omega), chunkAt]
  exact if_pos hhead

/-- A reader of image data looks at the data of neighbouring chunks, unless the file has come to
its end. -/
def Reader.Within (file : ByteArray) (first : Chunk) (r : Reader) : Prop :=
  file.size ≤ r.position ∨ DataStops file first (r.position + r.left)

variable {first : Chunk} {r r' : Reader}

theorem dataStops_of_chunkAfter {stop : Nat} (hr : file.size ≤ stop ∨ DataStops file first stop)
    (hchunk : chunkAfter file stop ≠ .error .cut) : DataStops file first stop :=
  hr.resolve_left fun hend => hchunk (chunkAfter_of_le hend)

theorem Reader.Within.toData (hr : r.Within file first) (fuel : Nat) :
    Ends (fun next => ∀ r' ∈ next, Within file first r') (Accounted file h first)
      (Reader.toData file fuel r) := by
  have hnone : ∀ r' ∈ (none : Option Reader), Within file first r' := fun _ hr' => nomatch hr'
  induction fuel generalizing r with
  | zero => exact .ok hnone
  | succ fuel ih =>
      unfold Reader.toData
      split
      · refine .ok fun r' hr' => ?_
        cases hr'
        exact hr
      · next hleft =>
        have hr : file.size ≤ r.position ∨ DataStops file first r.position := by
          simpa [Within, Decidable.not_not.mp hleft] using hr
        split
        · exact .error (accounted_of_reported rfl)
        · next name hchunk =>
          exact .error fun _ => .unnamed (dataStops_of_chunkAfter hr (by simp [hchunk])) hchunk
        · next c hchunk =>
          split
          · next hdata =>
            exact ih (.inr (.next (dataStops_of_chunkAfter hr (by simp [hchunk])) hchunk hdata))
          · exact .ok hnone

theorem Reader.Within.after (hr : r.Within file first) {size : Nat} (hsize : size ≤ r.left) :
    Within file first
      ⟨r.position + (file.extract r.position (r.position + size)).size, r.left - size⟩ := by
  rw [ByteArray.size_extract]
  by_cases hend : r.position + size ≤ file.size
  · rcases hr with hr | hr
    · exact .inl (by dsimp only; omega)
    · refine .inr ?_
      dsimp only
      rwa [Nat.min_eq_left hend, Nat.add_sub_cancel_left, Nat.add_assoc,
        Nat.add_sub_cancel' hsize]
  · exact .inl (by dsimp only; omega)

theorem escapes_of_decodeRows {p : Progress} {rows : List Row} {f : Fault}
    (hrows : decodeRows h p rows = .failed f) : f.escapes = false := by
  induction rows generalizing p with
  | nil => cases hrows
  | cons row rest ih =>
      unfold decodeRows at hrows
      dsimp only at hrows
      split at hrows
      · cases hrows
        rfl
      · split at hrows
        · cases hrows
        · split at hrows
          · cases hrows
            rfl
          · split at hrows
            · cases hrows
            · split at hrows
              · cases hrows
              · exact ih hrows

theorem Reader.Within.decodeData (hr : r.Within file first) (fuel : Nat) (p : Progress) :
    Ends (fun ended => Within file first ended.1 ∧ Reports ended.2) (Accounted file h first)
      (Png.decodeData file h fuel r p) := by
  induction fuel generalizing r p with
  | zero => exact .error (accounted_of_reported rfl)
  | succ fuel ih =>
      refine (hr.toData file.size).bind fun next hnext => ?_
      split
      · exact .error (accounted_of_reported rfl)
      · next r₁ =>
        have hafter := (hnext r₁ rfl).after (Nat.min_le_right pieceBytes r₁.left)
        refine .guard (accounted_of_reported rfl) ?_
        dsimp only
        split
        · exact ih hafter _
        · exact .ok ⟨hafter, .ok trivial⟩
        · next hrows => exact .ok ⟨hafter, .error (escapes_of_decodeRows hrows)⟩

/-! ### Behind the image -/

theorem Takes.ends_readRest {stop position : Nat} (htakes : Takes file stop h position h')
    (hstop : DataStops file first stop) (fuel : Nat) :
    Ends (fun _ => True) (Accounted file h first) (readRest file fuel position h') := by
  induction fuel generalizing position h' with
  | zero => exact .ok trivial
  | succ fuel ih =>
      unfold readRest
      split
      · exact .ok trivial
      · next c hchunk =>
        split
        · exact .ok trivial
        · next hend =>
          split
          · exact .error (accounted_of_reported rfl)
          · next hwhole =>
            have hwhole : c.stop ≤ file.size := Nat.le_of_not_lt hwhole
            split
            · next f htake => exact .error fun _ => .chunk hstop htakes hchunk hwhole htake
            · next h'' htake => exact ih (htakes.next hchunk hend hwhole htake)

theorem ends_readRest (hr : r.Within file first) (fuel : Nat) :
    Ends (fun _ => True) (Accounted file h first)
      (readRest file fuel (r.position + r.left) h) := by
  rcases hr with hend | hstop
  · cases fuel with
    | zero => exact .ok trivial
    | succ fuel =>
        rw [readRest, chunkAfter_of_le (by omega)]
        exact .ok trivial
  · exact Takes.none.ends_readRest hstop fuel

theorem ends_decode (h : Header) (first : Option Chunk) :
    Ends (fun _ => True) (fun f => f.escapes = true → ∃ c, first = some c ∧ Malformed file h c f)
      (decode file h first) := by
  cases first with
  | none => exact .error fun hescapes => nomatch hescapes
  | some c =>
      have hwithin : Reader.Within file c ⟨c.start, c.length⟩ := .inr .first
      have hdecode : Ends (fun _ => True) (Accounted file h c) (decode file h (some c)) := by
        unfold decode
        refine .guard (accounted_of_reported rfl) ?_
        refine (hwithin.decodeData _ _).bind fun ended hended => ?_
        refine (ends_readRest hended.1 _).bind fun _ _ => ?_
        exact (hended.2.imp (fun _ hp => hp) fun f => accounted_of_reported).bind
          fun _ _ => .ok trivial
      exact hdecode.imp (fun _ hp => hp) fun f hf hescapes => ⟨c, rfl, hf hescapes⟩

end Png

/-! ## Files -/

variable {file : ByteArray}

/-- A graphic whose header was read holds a malformed chunk too late. -/
structure Png.MalformedLate (file : ByteArray) (f : Fault) : Prop where
  signature : startsWith file Png.signature
  malformed : ∃ h first,
    Png.readHeader file file.size Png.signature.length {} = .ok (h, some first) ∧
    Png.Malformed file h first f

/-- An image that can be opened is decoded, or has a fault that is reported or that of a chunk
that is malformed. -/
theorem ends_openImage (file : ByteArray) :
    Ends
      (fun found => ∀ image ∈ found,
        Ends (fun _ => True) (fun f => f.escapes = true → Png.MalformedLate file f)
          (image.decode ()))
      (fun f => f.escapes = false) (openImage file) := by
  -- Portable network graphics alone can have a fault that escapes.
  unfold openImage
  split
  · next hsignature =>
    split
    · exact .ok fun image himage => nomatch himage
    · next f hread => exact .error (Png.escapes_of_readHeader hread)
    · next h first hread =>
      refine .ite (.ok fun image himage => nomatch himage) (.ok fun image himage => ?_)
      cases himage
      refine (Png.ends_decode h first).imp (fun _ hp => hp) fun f hf hescapes => ?_
      obtain ⟨c, rfl, hmalformed⟩ := hf hescapes
      exact ⟨hsignature, h, c, hread, hmalformed⟩
  · have hreported {x : Except Fault Picture} (hx : Reports x) :
        Ends (fun _ => True) (fun f => f.escapes = true → Png.MalformedLate file f) x :=
      hx.imp (fun _ hp => hp) fun f hf hescapes => by simp [hf] at hescapes
    split
    · split
      · exact .ok fun image himage => nomatch himage
      · next f hread => exact .error (Bmp.escapes_of_readHeader hread)
      · next h hread =>
        refine Ends.bind h.completed.reports_check fun _ _ => .ok fun image himage => ?_
        cases himage
        exact hreported (Bmp.reports_decode _)
    · refine Ends.bind (Pnm.reports_readHeader? file.toList) fun found _ => ?_
      split
      · exact .ok fun image himage => nomatch himage
      · next h =>
        refine .ok fun image himage => ?_
        cases himage
        exact hreported h.reports_decode

theorem ends_decode (name : String) (file : ByteArray) :
    Ends (fun p => 0 < p.height ∧ 0 < p.width)
      (fun f => f.escapes = true → Png.MalformedLate file f) (decode name file) := by
  have hopened := ends_openImage file
  unfold decode
  cases hopen : openImage file with
  | error f =>
      rw [hopen] at hopened
      exact .error fun hescapes => absurd hescapes (Bool.eq_false_iff.mp hopened)
  | ok found =>
      rw [hopen] at hopened
      cases found with
      | none => exact .error fun hescapes => nomatch hescapes
      | some image =>
          simp only [ok_bind]
          split
          · exact .error fun hescapes => nomatch hescapes
          · next hsize =>
            refine .guard (fun hescapes => nomatch hescapes) ?_
            -- The picture has the size that the header tells, which is not zero.
            have hdecode := hopened image rfl
            have hpicture := hasSize_openImage hopen
            cases hresult : image.decode () with
            | error f =>
                rw [hresult] at hdecode
                exact hdecode
            | ok p =>
                obtain ⟨hwidth, hheight⟩ := hpicture p hresult
                exact .ok (by omega)

theorem bufferOfGrid_eq_ok (source : String) {g : Grid UInt8} (hg : 0 < g.height ∧ 0 < g.width) :
    bufferOfGrid source g = .ok { toGrid := g, height_pos := hg.1, width_pos := hg.2 } := dif_pos hg

theorem Fault.report_of_escapes {path : String} {f : Fault} (h : f.escapes = true) :
    f.report path = .raster f := if_pos h

theorem Fault.report_of_not_escapes {path : String} {f : Fault} (h : f.escapes = false) :
    f.report path = .load path f.message := if_neg (Bool.eq_false_iff.mp h)

/-- A file is loaded as an image of at least one pixel, with its bytes in order, or there is a
failure to load its path. The fault of a malformed chunk that is found too late in a portable
network graphic is the only one that is raised as it is. -/
theorem load_outcome (t : Tree) (path : String) :
    (∃ image : PixelBuffer, load t path = .ok image ∧ 1 ≤ image.height ∧ 1 ≤ image.width ∧
      image.toArray = .packed .bytes [image.height, image.width, 3] image.bytes ∧
      image.bytes.size = image.height * image.width * 3) ∨
    (∃ cause, load t path = .error (.load path cause)) ∨
    ∃ file f, t.readSpelling path = .ok file ∧ decode path file = .error f ∧
      f.escapes = true ∧ Png.MalformedLate file f ∧ load t path = .error (.raster f) := by
  unfold load loadWith
  cases hfile : t.readSpelling path with
  | error e => exact .inr (.inl ⟨_, rfl⟩)
  | ok file =>
      dsimp only [Decoder.standard]
      have hdecode := ends_decode path file
      cases hresult : decode path file with
      | error f =>
          rw [hresult] at hdecode
          dsimp only
          cases hescapes : f.escapes with
          | true =>
              rw [Fault.report_of_escapes hescapes]
              exact .inr (.inr ⟨file, f, rfl, hresult, hescapes, hdecode hescapes, rfl⟩)
          | false =>
              rw [Fault.report_of_not_escapes hescapes]
              exact .inr (.inl ⟨_, rfl⟩)
      | ok picture =>
          rw [hresult] at hdecode
          have hsize : 0 < picture.toRgb.height ∧ 0 < picture.toRgb.width := hdecode
          simp only [bufferOfGrid_eq_ok path hsize]
          exact .inl ⟨_, rfl, hsize.1, hsize.2, rfl, picture.toRgb.cells.size_toArray⟩

/-- A graphic of one pixel that was cut within the header of its second chunk of image data. -/
def cutGraphic : ByteArray :=
  ⟨#[0x89, 0x50, 0x4E, 0x47, 0x0D, 0x0A, 0x1A, 0x0A, 0, 0, 0, 13, 0x49, 0x48, 0x44, 0x52,
    0, 0, 0, 1, 0, 0, 0, 1, 8, 0, 0, 0, 0, 0x3A, 0x7E, 0x9B, 0x55, 0, 0, 0, 2, 0x49, 0x44, 0x41,
    0x54, 0x78, 0x9C, 0x62, 0xA4, 0x91, 0x2B, 0, 0, 0, 8]⟩

/-- A file that cannot be decoded without being a failure to load its path. -/
theorem not_forall_load_failure :
    ¬ ∀ t path, (∃ image, load t path = .ok image) ∨
      ∃ cause, load t path = .error (.load path cause) := by
  intro hall
  have hdecode : decode "x" cutGraphic = .error (.brokenChunk []) :=
    eq_error_of_failure? (by decide +kernel)
  have hload : load ⟨[([['x']], .file cutGraphic)], []⟩ "x" =
      .error (.raster (.brokenChunk [])) := by
    have hfile : Tree.readSpelling ⟨[([['x']], .file cutGraphic)], []⟩ "x" = .ok cutGraphic := rfl
    simp only [load, loadWith, Decoder.standard, hfile, hdecode]
    rfl
  rcases hall ⟨[([['x']], .file cutGraphic)], []⟩ "x" with ⟨image, himage⟩ | ⟨cause, hcause⟩
  · rw [hload] at himage
    cases himage
  · rw [hload] at hcause
    cases hcause

end RasterTensor.Raster
