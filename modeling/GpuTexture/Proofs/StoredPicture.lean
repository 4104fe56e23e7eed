import Mathlib
import GpuTexture.Image.Basic
import GpuTexture.Proofs.AlignedExtents
import GpuTexture.Proofs.PlannedLevels
import GpuTexture.Proofs.RoundTrip
import GpuTexture.Proofs.UploadTrace

/-!
# Pictures and the containers that store them

A picture of red, green, blue and alpha bytes can be uploaded as it is or out of a container that
stores its pixels as the only level. Both ways leave the same calls on a device. A picture whose row
does not fit 32 bits fails both ways with the same error: the picture when its upload is planned, the
container when it is decoded.
-/

namespace GpuTexture

/-- A container of one uncompressed level that holds the pixels of a picture. What else its header
and its index say is left open, and so is where the pixels stand. -/
structure RgbaImage.IsStoredIn (image : RgbaImage) (bytes : Bytes) : Prop where
  identifier_eq : bytes.extract 0 12 = ktx2Identifier
  format_eq : (HeaderRecord.ofBlock bytes).vkFormat = 37
  scheme_eq : (HeaderRecord.ofBlock bytes).scheme = 0
  shape_eq : (HeaderRecord.ofBlock bytes).shape = ⟨image.width, image.height, 0, 0, 1⟩
  count_le : (HeaderRecord.ofBlock bytes).levelCount ≤ 1
  index_le : 104 ≤ bytes.size
  inside : (LevelEntry.spelledAt 80 bytes).byteEnd ≤ bytes.size
  payload_eq : (LevelEntry.spelledAt 80 bytes).payload bytes = image.data

/-! ## The layout of a picture -/

section Measures

variable {width height : UInt32}

private theorem max_one_toNat {side : UInt32} (hside : side ≠ 0) :
    max 1 side.toNat = side.toNat := by
  have hpos : side.toNat ≠ 0 := fun hzero => hside (UInt32.toNat_inj.mp hzero)
  omega

private theorem max_one_eq_self {side : UInt32} (hside : side ≠ 0) : max side 1 = side := by
  rw [← UInt32.toNat_inj, toNat_max_one, max_one_toNat hside]

private theorem one_le_toNat {side : UInt32} (hside : side ≠ 0) : 1 ≤ side.toNat := by
  rw [← max_one_toNat hside]
  exact Nat.le_max_left 1 _

private theorem Shape.dimension_image2d (hheight : height ≠ 0) :
    (Shape.image2d width height).dimension = .d2 := by
  have hpos : height > 0 := UInt32.pos_iff_ne_zero.mpr hheight
  simp [Shape.dimension, Shape.image2d, hpos]

private theorem Extent.isAligned_rgba8 (extent : Extent) : extent.IsAligned ⟨4, 1, 1⟩ :=
  ⟨one_dvd _, one_dvd _⟩

private theorem Extent.pitch_rgba8 (extent : Extent) :
    extent.pitch ⟨4, 1, 1⟩ = 4 * extent.width.toNat := by
  change extent.width.toNat / 1 * 4 = _
  rw [Nat.div_one, Nat.mul_comm]

private theorem BlockLayout.fits_rgba8_iff (hwidth : width ≠ 0) (hheight : height ≠ 0) :
    (⟨4, 1, 1⟩ : BlockLayout).Fits (.image2d width height) 0 ↔ 4 * width.toNat < 2 ^ 32 := by
  have hsides : (⟨4, 1, 1⟩ : BlockLayout).HasSides := ⟨by decide, by decide⟩
  have haligned := Extent.isAligned_rgba8 ⟨width, height, 1⟩
  have hfits := fits_image2d_iff hsides haligned (one_le_toNat hwidth) (one_le_toNat hheight)
  rw [Extent.pitch_rgba8] at hfits
  exact hfits

private theorem BlockLayout.exactLayout_rgba8 (hwidth : width ≠ 0) (hheight : height ≠ 0) :
    (⟨4, 1, 1⟩ : BlockLayout).exactLayout (.image2d width height) 0 =
      ⟨0, ⟨0, .ofNat (4 * width.toNat), height⟩, ⟨width, height, 1⟩⟩ := by
  have hsides : (⟨4, 1, 1⟩ : BlockLayout).HasSides := ⟨by decide, by decide⟩
  have haligned := Extent.isAligned_rgba8 ⟨width, height, 1⟩
  have hexact := exactLayout_image2d hsides haligned (one_le_toNat hwidth) (one_le_toNat hheight)
  have hrows : UInt32.ofNat (height.toNat / (1 : UInt32).toNat) = height := by
    rw [UInt32.toNat_one, Nat.div_one, UInt32.ofNat_toNat]
  rw [Extent.pitch_rgba8, hrows] at hexact
  exact hexact

end Measures

/-! ## Uploading a picture -/

private theorem clampedMipCount_one (requested : Option UInt32) :
    clampedMipCount 1 requested = 1 := by
  cases requested with
  | none => rfl
  | some count =>
    change min (max count 1) 1 = 1
    rw [← UInt32.toNat_inj, UInt32.toNat_min, UInt32.toNat_max, UInt32.toNat_one]
    omega

/-- A source of one level is planned as that level, whatever number of levels is asked for. -/
private theorem UploadPlan.build_of_single {source : TextureSource} (hcount : source.levelCount = 1)
    (options : UploadOptions) : build source options =
      (PlannedLevel.ofSource source 0).map fun level => ⟨source.descriptor options, [level]⟩ := by
  have hgathered : gatherLevels source 1 0 =
      (PlannedLevel.ofSource source 0).map fun level => [level] := by
    change (PlannedLevel.ofSource source 0 >>= fun level => pure [level]) = _
    cases PlannedLevel.ofSource source 0 <;> rfl
  rw [build_eq, hcount, clampedMipCount_one]
  change (gatherLevels source 1 0).map _ = _
  rw [hgathered]
  cases PlannedLevel.ofSource source 0 <;> rfl

namespace RgbaImage

def layout (image : RgbaImage) : LevelLayout where
  mip := 0
  layout := ⟨0, .ofNat (4 * image.width.toNat), image.height⟩
  extent := ⟨image.width, image.height, 1⟩

def plan (image : RgbaImage) (options : UploadOptions) : UploadPlan where
  descriptor :=
    { label := options.label
      usage := options.usage.union .copyDst
      dimension := .d2
      size := ⟨image.width, image.height, 1⟩
      format := .rgba8Unorm
      mipLevelCount := 1
      sampleCount := 1
      viewFormats := [.rgba8Unorm] }
  levels := [⟨0, image.data, image.layout.layout, image.layout.extent⟩]

/-- A source answers all that an upload asks as the picture would. -/
structure IsShownBy (image : RgbaImage) (source : TextureSource) : Prop where
  format_eq : source.format = .rgba8Unorm
  dimension_eq : source.dimension = .d2
  count_eq : source.levelCount = 1
  extent_eq : source.extent = ⟨image.width, image.height, 1⟩
  layout_eq : source.levelLayout 0 = .ok image.layout
  data_eq : source.levelData 0 = .ok image.data

variable {image : RgbaImage} {width height : UInt32} {data : Bytes}

private theorem toNat_length (hsmall : width.toNat * height.toNat * 4 < 2 ^ 64) :
    (width.toUInt64 * height.toUInt64 * 4).toNat = width.toNat * height.toNat * 4 := by
  have hpixels : width.toNat * height.toNat < 2 ^ 64 :=
    Nat.lt_of_le_of_lt (Nat.le_mul_of_pos_right _ (by decide)) hsmall
  rw [UInt64.toNat_mul, UInt64.toNat_mul, UInt32.toNat_toUInt64, UInt32.toNat_toUInt64,
    Nat.mod_eq_of_lt hpixels]
  exact Nat.mod_eq_of_lt hsmall

/-- Rows of 32 bits, of which 32 bits count how many there are. -/
private theorem length_lt_of_row (hrow : 4 * width.toNat < 2 ^ 32) (height : UInt32) :
    width.toNat * height.toNat * 4 < 2 ^ 64 := by
  calc width.toNat * height.toNat * 4 = 4 * width.toNat * height.toNat := by ring
    _ < 2 ^ 32 * 2 ^ 32 := Nat.mul_lt_mul'' hrow height.toNat_lt

theorem ofRgba8_of_lt (hsmall : width.toNat * height.toNat * 4 < 2 ^ 64) (data : Bytes) :
    ofRgba8 width height data =
      if width = 0 ∨ height = 0 then .error (.empty width height)
      else if data.size ≠ width.toNat * height.toNat * 4 then
        .error (.sizeMismatch (width.toNat * height.toNat * 4) data.size)
      else .ok ⟨width, height, data⟩ := by
  simp only [ofRgba8, toNat_length hsmall]

private theorem of_ofRgba8_eq_ok (haccepted : ofRgba8 width height data = .ok image) :
    image = ⟨width, height, data⟩ ∧ width ≠ 0 ∧ height ≠ 0 := by
  unfold ofRgba8 at haccepted
  split at haccepted
  · cases haccepted
  · next hsides =>
    obtain ⟨hwidth, hheight⟩ := not_or.mp hsides
    dsimp only at haccepted
    split at haccepted
    · cases haccepted
    · cases haccepted
      exact ⟨rfl, hwidth, hheight⟩

private theorem size_of_ofRgba8_eq_ok (haccepted : ofRgba8 width height data = .ok image)
    (hrow : 4 * width.toNat < 2 ^ 32) : data.size = width.toNat * height.toNat * 4 := by
  obtain ⟨_, hwidth, hheight⟩ := of_ofRgba8_eq_ok haccepted
  by_contra hsize
  rw [ofRgba8_of_lt (length_lt_of_row hrow height), if_neg (not_or.mpr ⟨hwidth, hheight⟩), if_pos hsize] at haccepted
  cases haccepted

private theorem levelLayout_zero (hwidth : image.width ≠ 0) (hheight : image.height ≠ 0) :
    image.levelLayout 0 = if 4 * image.width.toNat < 2 ^ 32 then .ok image.layout
      else .error (.layoutOverflow 0) := by
  have hsides : (⟨4, 1, 1⟩ : BlockLayout).HasSides := ⟨by decide, by decide⟩
  have hslices : ¬ 2 ^ 32 ≤ (Shape.image2d image.width image.height).slices 0 := by
    rw [Shape.slices_image2d]
    decide
  change LevelLayout.compute ⟨4, 1, 1⟩ (.image2d image.width image.height) 0 = _
  rw [BlockLayout.compute_eq hsides, if_neg hslices, BlockLayout.exactLayout_rgba8 hwidth hheight]
  simp only [BlockLayout.fits_rgba8_iff hwidth hheight, layout]

private theorem byteSize?_layout (hrow : 4 * image.width.toNat < 2 ^ 32)
    (hsize : image.data.size = image.width.toNat * image.height.toNat * 4) :
    image.layout.byteSize? = some image.data.size := by
  have hpacked : image.layout.packedSize = image.data.size := by
    change (UInt32.ofNat (4 * image.width.toNat)).toNat * image.height.toNat * 1 = _
    rw [UInt32.toNat_ofNat_of_lt' hrow, hsize]
    ring
  have hsmall : image.data.size < 2 ^ 64 := hsize ▸ length_lt_of_row hrow image.height
  rw [LevelLayout.byteSize?_eq, hpacked]
  exact if_pos hsmall

theorem IsShownBy.build_eq {source : TextureSource} (hshown : image.IsShownBy source)
    (hrow : 4 * image.width.toNat < 2 ^ 32)
    (hsize : image.data.size = image.width.toNat * image.height.toNat * 4)
    (options : UploadOptions) : UploadPlan.build source options = .ok (image.plan options) := by
  have hdescriptor : source.descriptor options = (image.plan options).descriptor := by
    rw [TextureSource.descriptor, hshown.format_eq, hshown.dimension_eq, hshown.count_eq,
      hshown.extent_eq, clampedMipCount_one]
    rfl
  have hlevel : PlannedLevel.ofSource source 0 =
      .ok ⟨0, image.data, image.layout.layout, image.layout.extent⟩ :=
    PlannedLevel.ofSource_of_delivered hshown.layout_eq hshown.data_eq
      (byteSize?_layout hrow hsize) (Nat.le_refl _)
  rw [UploadPlan.build_of_single hshown.count_eq, hlevel, hdescriptor]
  rfl

theorem isShownBy_toSource (hwidth : image.width ≠ 0) (hheight : image.height ≠ 0)
    (hrow : 4 * image.width.toNat < 2 ^ 32) : image.IsShownBy image.toSource where
  format_eq := rfl
  dimension_eq := rfl
  count_eq := rfl
  extent_eq := rfl
  layout_eq := (levelLayout_zero hwidth hheight).trans (if_pos hrow)
  data_eq := rfl

private theorem build_toSource_eq_error (hwidth : image.width ≠ 0) (hheight : image.height ≠ 0)
    (hrow : 2 ^ 32 ≤ 4 * image.width.toNat) (options : UploadOptions) :
    UploadPlan.build image.toSource options = .error (.source (.layoutOverflow 0)) := by
  have hlayout : image.toSource.levelLayout 0 = .error (.layoutOverflow 0) :=
    (levelLayout_zero hwidth hheight).trans (if_neg (Nat.not_lt.mpr hrow))
  rw [UploadPlan.build_of_single rfl, PlannedLevel.ofSource_of_refuses (.noLayout hlayout),
    Outcome.map_error]

namespace IsStoredIn

variable {bytes : Bytes}

private theorem exists_header (hstored : image.IsStoredIn bytes) (hwidth : image.width ≠ 0)
    (hheight : image.height ≠ 0) :
    ∃ header : Header, header.ReadFrom bytes ∧
      header.shape = .image2d image.width image.height ∧ header.storedLevelCount.toNat = 1 ∧
      header.HasFacts ⟨.rgba8Unorm, ⟨4, 1, 1⟩, .d2, ⟨image.width, image.height, 1⟩⟩ := by
  have hscheme : ¬ 3 < (HeaderRecord.ofBlock bytes).scheme := by
    rw [hstored.scheme_eq]
    decide
  have hlong : 80 ≤ bytes.size := Nat.le_trans (by decide) hstored.index_le
  obtain ⟨header, hread⟩ := Header.exists_readFrom hstored.identifier_eq hlong hscheme
  have hrecord := hread.record_eq
  have hcode : header.vkFormat = 37 := by
    rw [← hstored.format_eq, ← hrecord]
    rfl
  have hplain : header.scheme = .none := by
    rw [← Supercompression.toWord_eq_zero_iff, ← hstored.scheme_eq, ← hrecord]
    rfl
  have hshape : header.shape = .image2d image.width image.height := by
    rw [Shape.image2d, ← hstored.shape_eq, ← hrecord]
    rfl
  have hcount : header.storedLevelCount.toNat = 1 := by
    have hword : header.levelCount ≤ 1 := by
      have hle := hstored.count_le
      rw [← hrecord] at hle
      exact hle
    have hle := UInt32.le_iff_toNat_le.mp hword
    rw [UInt32.toNat_one] at hle
    rw [Header.toNat_storedLevelCount]
    omega
  have hview : (Shape.image2d image.width image.height).viewDimension = .ok .d2 := by
    have hpos : 0 < image.height := UInt32.pos_iff_ne_zero.mpr hheight
    have hfaces : (1 : UInt32) ≠ 6 := by decide
    exact Shape.viewDimension_of_isViewedAs ⟨rfl, rfl, hfaces, hpos⟩
  have hextent : (Shape.image2d image.width image.height).baseExtent =
      .ok ⟨image.width, image.height, 1⟩ := by
    rw [Shape.baseExtent_eq (by rw [Shape.slices_image2d]; decide), Shape.slices_image2d]
    change Except.ok (⟨max image.width 1, max image.height 1, 1⟩ : Extent) = _
    rw [max_one_eq_self hwidth, max_one_eq_self hheight]
  refine ⟨header, hread, hshape, hcount, ?_⟩
  exact
    { format_eq := by rw [hcode]; rfl
      block_eq := rfl
      scheme_eq := hplain
      view_eq := by rw [hshape, hview]
      extent_eq := by rw [hshape, hextent]
      slices_lt := by rw [hshape, Shape.slices_image2d]; decide }

/-- A container is decoded exactly when the picture that it stores can be planned, and otherwise
refused for the same layout. -/
theorem decode_cases (hstored : image.IsStoredIn bytes) (hwidth : image.width ≠ 0)
    (hheight : image.height ≠ 0) :
    (4 * image.width.toNat < 2 ^ 32 ∧ ∃ container, Container.decode bytes = .ok container ∧
      container.format = .rgba8Unorm ∧ container.block = ⟨4, 1, 1⟩ ∧
      container.extent = ⟨image.width, image.height, 1⟩ ∧
      container.shape = .image2d image.width image.height ∧
      container.levels.toList = [LevelEntry.spelledAt 80 bytes]) ∨
    2 ^ 32 ≤ 4 * image.width.toNat ∧
      Container.decode bytes = .error (.texture (.layoutOverflow 0)) := by
  obtain ⟨header, hread, hshape, hcount, hsound⟩ := hstored.exists_header hwidth hheight
  have hlong : ¬ bytes.size < 80 + 24 * 1 := Nat.not_lt.mpr hstored.index_le
  have hfits := BlockLayout.fits_rgba8_iff hwidth hheight
  have hdecode := Container.decode_of_hasFacts hread hsound
  rw [hshape, hcount, if_neg hlong] at hdecode
  dsimp only at hdecode
  by_cases hrow : 4 * image.width.toNat < 2 ^ 32
  · left
    have hordered : (⟨4, 1, 1⟩ : BlockLayout).orderedEntries
        (.image2d image.width image.height) (LevelEntry.indexAt 1 80 bytes) =
          [LevelEntry.spelledAt 80 bytes] := ite_self _
    rw [if_neg (not_not.mpr (hfits.mpr hrow)), hordered] at hdecode
    have hinside : ∀ entry ∈ [LevelEntry.spelledAt 80 bytes], entry.byteEnd ≤ bytes.size := by
      intro entry hentry
      rw [List.mem_singleton.mp hentry]
      exact hstored.inside
    obtain ⟨container, haccepted, _, hheader, hformat, hblock, _, hextent, hlevels, _⟩ :=
      Container.exists_assemble header _ hinside
    refine ⟨hrow, container, hdecode.trans haccepted, hformat, hblock, hextent, ?_, hlevels⟩
    rw [Container.shape, hheader, hshape]
  · right
    rw [if_pos (mt hfits.mp hrow)] at hdecode
    exact ⟨Nat.le_of_not_lt hrow, hdecode⟩

theorem exists_isShownBy (hstored : image.IsStoredIn bytes) (hwidth : image.width ≠ 0)
    (hheight : image.height ≠ 0) (hrow : 4 * image.width.toNat < 2 ^ 32) :
    ∃ container, Container.decode bytes = .ok container ∧ image.IsShownBy container.toSource := by
  rcases hstored.decode_cases hwidth hheight with
    ⟨_, container, haccepted, hformat, hblock, hextent, hshape, hlevels⟩ | ⟨hlarge, _⟩
  · have hdecoded := Container.DecodedFrom.of_decode haccepted
    have hcount : container.levelCount = 1 := by
      rw [Container.levelCount, ← Array.length_toList, hlevels]
      rfl
    have hbase : 0 < container.levelCount := by
      rw [hcount]
      decide
    obtain ⟨entry, hentry, _, _, _, hdata, hlayout⟩ := hdecoded.access_eq_ok hbase
    have hfirst : entry = LevelEntry.spelledAt 80 bytes := by
      rw [← Array.getElem?_toList, hlevels] at hentry
      exact (Option.some.inj hentry).symm
    rw [hblock, hshape, BlockLayout.exactLayout_rgba8 hwidth hheight] at hlayout
    refine ⟨container, haccepted, hformat, ?_, hcount, hextent, hlayout, ?_⟩
    · change container.shape.dimension = .d2
      rw [hshape, Shape.dimension_image2d hheight]
    · change container.levelData 0 = .ok image.data
      rw [hdata, hfirst, ← hstored.payload_eq]
      rfl
  · omega

end IsStoredIn

def draft (image : RgbaImage) : Draft where
  header := ⟨37, 1, image.width, image.height, 0, 0, 1, 1, .none, ⟨0, 0⟩, ⟨0, 0⟩, ⟨0, 0⟩⟩
  payloads := [image.data]
  order := .smallestFirst

private theorem size_write_draft (image : RgbaImage) :
    image.draft.write.size = 104 + image.data.size := by
  rw [Draft.size_write]
  change 104 + (Bytes.concat [image.data]).size = _
  rw [Bytes.concat_cons, ByteArray.size_append]
  rfl

theorem isStoredIn_write (hsize : 104 + image.data.size < 2 ^ 64) :
    image.IsStoredIn image.draft.write := by
  have hlong := image.size_write_draft
  have haddressable : image.draft.write.size < 2 ^ 64 := hlong ▸ hsize
  have hrecord := image.draft.ofBlock_write
  obtain ⟨entry, hentries⟩ : ∃ entry, image.draft.entries = [entry] := ⟨_, rfl⟩
  have hspelled : LevelEntry.spelledAt 80 image.draft.write = entry := by
    have hindex : [LevelEntry.spelledAt 80 image.draft.write] = image.draft.entries :=
      image.draft.indexAt_write
    rw [hentries] at hindex
    exact List.head_eq_of_cons_eq hindex
  have hpayload : [entry.payload image.draft.write] = [image.data] := by
    have hpayloads := Draft.payload_entries haddressable
    rw [hentries] at hpayloads
    exact hpayloads
  have hidentifier : image.draft.write.extract 0 12 = ktx2Identifier := by
    change (HeaderRecord.ofBlock image.draft.write).identifier = _
    rw [hrecord]
    rfl
  refine ⟨hidentifier, congrArg HeaderRecord.vkFormat hrecord,
    congrArg HeaderRecord.scheme hrecord, congrArg HeaderRecord.shape hrecord, ?_, by omega, ?_, ?_⟩
  · rw [hrecord]
    exact UInt32.le_refl _
  · rw [hspelled]
    apply Draft.byteEnd_le_of_mem_entries haddressable
    rw [hentries]
    exact List.mem_singleton_self entry
  · rw [hspelled]
    exact List.head_eq_of_cons_eq hpayload

/-- Pictures and the containers that store them. A picture is refused for a missing side, then for
the wrong number of bytes, as long as a 64-bit word can count these. An accepted one whose row fits
32 bits is uploaded to every recording device as one level, and a container that stores it does the
same as the picture to every device. An accepted one whose row does not fit is refused when its
upload is planned, and the containers that store it are refused for the same layout when they are
decoded. -/
theorem upload_ofRgba8 (width height : UInt32) (data : Bytes) :
    (width.toNat * height.toNat * 4 < 2 ^ 64 → ofRgba8 width height data =
      if width = 0 ∨ height = 0 then .error (.empty width height)
      else if data.size ≠ width.toNat * height.toNat * 4 then
        .error (.sizeMismatch (width.toNat * height.toNat * 4) data.size)
      else .ok ⟨width, height, data⟩) ∧
    ∀ image, ofRgba8 width height data = .ok image →
      (4 * width.toNat < 2 ^ 32 →
        (∀ (options : UploadOptions) (recorder : Recorder), ∃ next : Recorder,
          uploadWithOptions image.toSource options recorder = (.ok recorder.nextId, next) ∧
          next.nextId = ⟨recorder.nextId.index + 1⟩ ∧
          next.calls = recorder.calls ++
            [.createTexture recorder.nextId
              { label := options.label
                usage := options.usage.union .copyDst
                dimension := .d2
                size := ⟨width, height, 1⟩
                format := .rgba8Unorm
                mipLevelCount := 1
                sampleCount := 1
                viewFormats := [.rgba8Unorm] },
            .writeTexture
              { texture := recorder.nextId
                mipLevel := 0
                origin := .zero
                aspect := .all
                data := data
                layout := ⟨0, .ofNat (4 * width.toNat), height⟩
                size := ⟨width, height, 1⟩ }]) ∧
        ∀ bytes, image.IsStoredIn bytes → ∃ container, Container.decode bytes = .ok container ∧
          ∀ (device handle : Type) [GpuDevice device handle] (options : UploadOptions)
            (state : device),
            uploadWithOptions container.toSource options state =
              uploadWithOptions image.toSource options state) ∧
      (2 ^ 32 ≤ 4 * width.toNat →
        (∀ (device handle : Type) [GpuDevice device handle] (options : UploadOptions)
          (state : device),
          uploadWithOptions image.toSource options state =
            (.error (.source (.layoutOverflow 0)), state)) ∧
        ∀ bytes, image.IsStoredIn bytes →
          Container.decode bytes = .error (.texture (.layoutOverflow 0))) := by
  refine ⟨fun hsmall => ofRgba8_of_lt hsmall data, fun image haccepted => ?_⟩
  have hfilled := size_of_ofRgba8_eq_ok haccepted
  obtain ⟨rfl, hwidth, hheight⟩ := of_ofRgba8_eq_ok haccepted
  have hpicture : 4 * width.toNat < 2 ^ 32 → ∀ options,
      UploadPlan.build (toSource ⟨width, height, data⟩) options =
        .ok (plan ⟨width, height, data⟩ options) := by
    intro hrow
    exact (isShownBy_toSource hwidth hheight hrow).build_eq hrow (hfilled hrow)
  refine ⟨fun hrow => ⟨fun options recorder => ?_, fun bytes hstored => ?_⟩,
    fun hrow => ⟨fun device handle _ options state => ?_, fun bytes hstored => ?_⟩⟩
  · obtain ⟨htexture, hcalls, hnext⟩ :=
      Recorder.submit_eq (plan ⟨width, height, data⟩ options) recorder
    rw [uploadWithOptions_of_ok (hpicture hrow options)]
    exact ⟨_, by rw [htexture], hnext, hcalls⟩
  · obtain ⟨container, hdecoded, hshown⟩ := hstored.exists_isShownBy hwidth hheight hrow
    refine ⟨container, hdecoded, fun device handle _ options state => ?_⟩
    rw [uploadWithOptions_of_ok (hshown.build_eq hrow (hfilled hrow) options),
      uploadWithOptions_of_ok (hpicture hrow options)]
  · exact uploadWithOptions_of_error (build_toSource_eq_error hwidth hheight hrow options) state
  · rcases hstored.decode_cases hwidth hheight with ⟨hsmall, _⟩ | ⟨_, hrefused⟩
    · exact absurd hsmall (Nat.not_lt.mpr hrow)
    · exact hrefused

/-- A single pixel goes to the device in two calls, by either way, and a row of 2^30 pixels fails by
either way. -/
theorem upload_ofRgba8_rows :
    let pixel : RgbaImage := ⟨1, 1, ⟨#[1, 2, 3, 4]⟩⟩
    let row : RgbaImage := ⟨1073741824, 1, ⟨Array.replicate (2 ^ 32) 0⟩⟩
    let options := UploadOptions.ofUsage .textureBinding
    (∃ container next, Container.decode pixel.draft.write = .ok container ∧
      uploadWithOptions pixel.toSource options Recorder.fresh = (.ok ⟨0⟩, next) ∧
      uploadWithOptions container.toSource options Recorder.fresh = (.ok ⟨0⟩, next) ∧
      next.calls.length = 2) ∧
    uploadWithOptions row.toSource options Recorder.fresh =
        (.error (.source (.layoutOverflow 0)), Recorder.fresh) ∧
      Container.decode row.draft.write = .error (.texture (.layoutOverflow 0)) := by
  intro pixel row options
  have hlength : row.data.size = 2 ^ 32 := Array.size_replicate
  constructor
  · obtain ⟨_, hpixel⟩ := upload_ofRgba8 1 1 ⟨#[1, 2, 3, 4]⟩
    obtain ⟨hfits, _⟩ := hpixel pixel rfl
    obtain ⟨hupload, hstored⟩ := hfits (by decide)
    obtain ⟨next, huploaded, _, hcalls⟩ := hupload options Recorder.fresh
    obtain ⟨container, haccepted, hsame⟩ := hstored _ (isStoredIn_write (by decide))
    refine ⟨container, next, haccepted, huploaded, ?_, ?_⟩
    · rw [hsame]
      exact huploaded
    · rw [hcalls]
      rfl
  · obtain ⟨hwrapped, hrow⟩ := upload_ofRgba8 1073741824 1 row.data
    have hsize : ¬ row.data.size ≠
        (1073741824 : UInt32).toNat * (1 : UInt32).toNat * 4 := not_not.mpr hlength
    have hcounted := hwrapped (by decide)
    rw [if_neg (by decide), if_neg hsize] at hcounted
    obtain ⟨_, hlarge⟩ := hrow row hcounted
    obtain ⟨hupload, hstored⟩ := hlarge (by decide)
    refine ⟨hupload Recorder TextureId options Recorder.fresh, hstored _ (isStoredIn_write ?_)⟩
    rw [hlength]
    decide

end RgbaImage

end GpuTexture
