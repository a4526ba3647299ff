import Mathlib
import Colorimetry.Proofs.Transfer.Naming
import Colorimetry.Surface.Description

/-!
# What a description denotes

A description names the state of a surface, and a client asks for one by codes. In between stand the
values on the wire, which have both a name and a code, and tables of their own give the names of
colorspaces, curves and encodings. This file shows that the three ways lead to one state: a
description resolves to the state whose values bear its names (`Description.Denotes`), what that
state resolves to bears them too, and the codes of its values reach it (`handle_codes`).

The names that can be resolved are those of the tables, with one exception. sRGB has primaries in
the table of colorspaces, but they are those of BT.709, and no value on the wire stands for it. An
undefined encoding has the name of the encoding that stands in for it, BT.601, but that name does
not lead back to it; only a missing name does.

A description fails at the first field whose name its table does not have, or at its multiplier
(`Description.refusal?`). Each field either is refused or has a value (`resolve_cases`), and
`toSurface_cases` puts the fields together in their order.
-/

namespace Colorimetry

/-! ### Names and codes on the wire -/

namespace Wire

namespace Chromaticities

/-- What is found on the wire has the name. -/
theorem ofName_eq_ok_iff {name : String} {c : Chromaticities} :
    ofName name = .ok c ↔ c.name? = some name := by
  constructor
  · intro h
    unfold ofName at h
    split at h
    · next hfind =>
      cases h
      simpa using List.find?_some hfind
    · cases h
  · intro h
    cases c <;> cases h <;> decide

/-- A name that is not found is handed back. -/
theorem ofName_cases (name : String) :
    (∃ c, ofName name = .ok c) ∨ ofName name = .error (.unknownColorspace name) := by
  unfold ofName
  split
  · exact .inl ⟨_, rfl⟩
  · exact .inr rfl

theorem name?_eq_none_iff {c : Chromaticities} : c.name? = none ↔ c = .undefined := by
  cases c <;> simp [name?]

/-- A value is found by its code. -/
theorem ofCode_code (c : Chromaticities) : ofCode c.code = .ok c := by
  cases c <;> decide

end Chromaticities

/-- A value is found by its code. -/
theorem Transfer.ofCode_code (t : Transfer) : ofCode t.code = .ok t := by
  cases t <;> decide

namespace Encoding

/-- The name of an encoding that the client has named. -/
def givenName? (e : Encoding) : Option String := if e = undefined then none else some e.name

/-- What is found on the wire has the name and is not the encoding that was left open. -/
theorem ofName_eq_ok_iff {name : String} {e : Encoding} :
    ofName name = .ok e ↔ e.givenName? = some name := by
  constructor
  · intro h
    unfold ofName at h
    split at h
    · next hfind =>
      cases h
      have hmem := List.mem_of_find?_eq_some hfind
      have hname : e.name = name := by simpa using List.find?_some hfind
      rw [givenName?, if_neg, hname]
      rintro rfl
      revert hmem
      decide
    · cases h
  · intro h
    cases e <;> cases h <;> decide

/-- A name that is not found is handed back. -/
theorem ofName_cases (name : String) :
    (∃ e, ofName name = .ok e) ∨ ofName name = .error (.unknownEncoding name) := by
  unfold ofName
  split
  · exact .inl ⟨_, rfl⟩
  · exact .inr rfl

theorem givenName?_eq_none_iff {e : Encoding} : e.givenName? = none ↔ e = .undefined := by
  cases e <;> simp [givenName?]

/-- A value is found by its code. -/
theorem ofCode_code (e : Encoding) : ofCode e.code = .ok e := by
  cases e <;> decide

end Encoding

/-- A value is found by its code. -/
theorem Quantization.ofCode_code (q : Quantization) : ofCode q.code = .ok q := by
  cases q <;> decide

end Wire

/-! ### One field -/

namespace Surface

namespace Description

/-- The names of the built-in colorspaces, apart from the second name of BT.709. -/
def isColorspaceName (name : String) : Bool :=
  name != "sRGB" && (Colorspace.find? name : Option (Colorspace Float32)).isSome

/-- The names of the transfer functions. -/
def isTransferName (name : String) : Bool := (TransferFunction.ofName? name).isSome

/-- The names of the built-in encodings. -/
def isEncodingName (name : String) : Bool :=
  (ColorEncoding.find? name : Option (ColorEncoding Float32)).isSome

theorem isColorspaceName_iff {name : String} : isColorspaceName name = true ↔
    name ≠ "sRGB" ∧ ∃ cs ∈ (Colorspace.table : List (Colorspace Float32)), cs.name = name := by
  simp [isColorspaceName, Colorspace.find?, List.find?_isSome]

theorem isTransferName_iff {name : String} :
    isTransferName name = true ↔ ∃ tf : TransferFunction, tf.name = name := by
  simp only [isTransferName, Option.isSome_iff_exists, TransferFunction.ofName?_eq_some_iff]

theorem isEncodingName_iff {name : String} : isEncodingName name = true ↔
    ∃ e ∈ (ColorEncoding.table : List (ColorEncoding Float32)), e.name = name := by
  simp [isEncodingName, ColorEncoding.find?, List.find?_isSome]

/-- The error of a field whose name is not known. -/
def unknown? (known : String → Bool) (unknown : String → LookupError) (field : Option String) :
    Option (Error Float32) :=
  field.bind fun name => if known name then none else some (.lookup (unknown name))

theorem unknown?_eq_none_iff {known : String → Bool} {unknown : String → LookupError}
    {field : Option String} :
    unknown? known unknown field = none ↔ ∀ name ∈ field, known name = true := by
  cases field <;> simp [unknown?]

/-- **A field is resolved by name**: `Means` says what a value makes of the field, and the names
that are not known are handed back. -/
structure IsNaming {β : Type} (ofName : String → Except LookupError β) (default : β)
    (known : String → Bool) (unknown : String → LookupError) (Means : β → Option String → Prop) :
    Prop where
  means_none {b : β} : Means b none ↔ b = default
  means_some {b : β} {name : String} : Means b (some name) ↔ ofName name = .ok b
  name_cases (name : String) : (known name = true ∧ ∃ b, ofName name = .ok b) ∨
    (known name = false ∧ ofName name = .error (unknown name))

section Naming

variable {β : Type} {ofName : String → Except LookupError β} {default : β} {known : String → Bool}
  {unknown : String → LookupError} {Means : β → Option String → Prop}
  (h : IsNaming ofName default known unknown Means)

include h

/-- Different values make different things of a field. -/
theorem IsNaming.unique {b b' : β} {field : Option String} (hb : Means b field)
    (hb' : Means b' field) : b = b' := by
  cases field with
  | none => exact (h.means_none.mp hb).trans (h.means_none.mp hb').symm
  | some name => exact Except.ok.inj ((h.means_some.mp hb).symm.trans (h.means_some.mp hb'))

/-- **A field has a value or is refused.** -/
theorem IsNaming.resolve_cases (field : Option String) :
    (unknown? known unknown field = none ∧
      ∃ b, (resolve ofName default field : Except (Error Float32) β) = .ok b ∧ Means b field) ∨
    ∃ e, unknown? known unknown field = some e ∧ resolve ofName default field = .error e := by
  cases field with
  | none => exact .inl ⟨rfl, default, rfl, h.means_none.mpr rfl⟩
  | some name =>
    rcases h.name_cases name with ⟨hknown, b, hb⟩ | ⟨hknown, herror⟩
    · refine .inl ⟨?_, b, ?_, h.means_some.mpr hb⟩
      · rw [unknown?, Option.bind_some, if_pos hknown]
      · rw [resolve, hb]
        rfl
    · refine .inr ⟨.lookup (unknown name), ?_, ?_⟩
      · rw [unknown?, Option.bind_some, hknown]
        rfl
      · rw [resolve, herror]
        rfl

end Naming

/-- Values that have one name each, or none, are resolved by it, if the known names are theirs. -/
theorem isNaming_of_names {β : Type} {ofName : String → Except LookupError β} {default : β}
    {known : String → Bool} {unknown : String → LookupError} {name? : β → Option String}
    (all : List β) (hall : ∀ b, b ∈ all) (hdefault : ∀ {b}, name? b = none ↔ b = default)
    (hok : ∀ {name b}, ofName name = .ok b ↔ name? b = some name)
    (hcases : ∀ name, (∃ b, ofName name = .ok b) ∨ ofName name = .error (unknown name))
    (hknown : ∀ name, known name = true ↔ name ∈ all.filterMap name?) :
    IsNaming ofName default known unknown fun b field => name? b = field where
  means_none := hdefault
  means_some := hok.symm
  name_cases name := by
    rcases hcases name with ⟨b, hb⟩ | herror
    · have hmem : name ∈ all.filterMap name? := List.mem_filterMap.mpr ⟨b, hall b, hok.mp hb⟩
      exact .inl ⟨(hknown name).mpr hmem, b, hb⟩
    · refine .inr ⟨Bool.eq_false_iff.mpr fun htrue => ?_, herror⟩
      obtain ⟨b, -, hb⟩ := List.mem_filterMap.mp ((hknown name).mp htrue)
      cases herror.symm.trans (hok.mpr hb)

/-- Chromaticities go by the names of colorspaces, and no name stands for undefined ones. -/
theorem isNaming_chromaticities : IsNaming Wire.Chromaticities.ofName .undefined isColorspaceName
    .unknownColorspace fun c field => c.name? = field := by
  refine isNaming_of_names Wire.Chromaticities.all (fun c => by cases c <;> decide)
    Wire.Chromaticities.name?_eq_none_iff Wire.Chromaticities.ofName_eq_ok_iff
    Wire.Chromaticities.ofName_cases fun name => ?_
  -- the table has the names of the values on the wire, and one more
  have hnames : ((Colorspace.table : List (Colorspace Float32)).map (·.name)).filter
      (· != "sRGB") = Wire.Chromaticities.all.filterMap (·.name?) := by decide
  rw [isColorspaceName_iff, ← hnames]
  simp [and_comm]

/-- Encodings go by their names, and no name stands for the one that is left open. -/
theorem isNaming_encoding : IsNaming Wire.Encoding.ofName .undefined isEncodingName
    .unknownEncoding fun e field => e.givenName? = field := by
  refine isNaming_of_names Wire.Encoding.all (fun e => by cases e <;> decide)
    Wire.Encoding.givenName?_eq_none_iff Wire.Encoding.ofName_eq_ok_iff
    Wire.Encoding.ofName_cases fun name => ?_
  have hnames : (ColorEncoding.table : List (ColorEncoding Float32)).map (·.name) =
      Wire.Encoding.all.filterMap (·.givenName?) := by decide
  rw [isEncodingName_iff, ← hnames, List.mem_map]

/-- Transfer functions go by their names, linear light also by none. -/
theorem isNaming_transfer : IsNaming Wire.Transfer.ofName .linear isTransferName .unknownTransfer
    fun t field => t.name = field.getD "Linear" where
  means_none {t} := by
    cases t <;> decide
  means_some := Wire.Transfer.ofName_eq_ok_iff.symm
  name_cases name := by
    unfold isTransferName
    cases h : TransferFunction.ofName? name with
    | some tf =>
      obtain ⟨t, ht, -⟩ := TransferFunction.exists_wire_of_ofName? h
      exact .inl ⟨rfl, t, ht⟩
    | none => exact .inr ⟨rfl, TransferFunction.wire_ofName_of_ofName?_eq_none h⟩

/-- The error of a multiplier that is not finite and positive. -/
def unfit? (field : Option Float32) : Option (Error Float32) :=
  field.bind fun k => if k.isFinite && decide (0 < k) then none else some (.invalidMultiplier k)

theorem unfit?_eq_none_iff {field : Option Float32} :
    unfit? field = none ↔ ∀ k ∈ field, k.isFinite = true ∧ 0 < k := by
  cases field <;> simp [unfit?]

/-- A missing multiplier is one, which is fit. -/
theorem checkedMultiplier_cases (d : Description Float32) :
    (unfit? d.multiplier = none ∧ ∃ k, d.checkedMultiplier = .ok k) ∨
      ∃ e, unfit? d.multiplier = some e ∧ d.checkedMultiplier = .error e := by
  unfold checkedMultiplier Color.checkMultiplier
  cases d.multiplier with
  | none => exact .inl ⟨rfl, 1, if_pos (by decide +kernel)⟩
  | some k =>
    rw [unfit?, Option.bind_some, Option.getD_some]
    cases hk : k.isFinite && decide (0 < k) with
    | true => exact .inl ⟨rfl, k, rfl⟩
    | false => exact .inr ⟨.invalidMultiplier k, rfl, rfl⟩

/-! ### All fields -/

/-- **Why a description is refused**: the first of its fields that has a name that is not known, or
a multiplier that is not fit. -/
def refusal? (d : Description Float32) : Option (Error Float32) :=
  (unknown? isColorspaceName .unknownColorspace d.chromaticities).or <|
    (unknown? isTransferName .unknownTransfer d.transfer).or <|
      (unknown? isEncodingName .unknownEncoding d.encoding).or (unfit? d.multiplier)

/-- **What a description denotes**: the state whose values bear its names. -/
structure Denotes (d : Description Float32) (s : Color) : Prop where
  chromaticities : s.chromaticities.name? = d.chromaticities
  transfer : s.transfer.name = d.transfer.getD "Linear"
  encoding : s.encoding.givenName? = d.encoding
  quantization : s.quantization = .ofFull d.fullRange

variable {d : Description Float32} {s s' : Color}

/-- A description denotes one state at most. -/
theorem Denotes.unique (h : d.Denotes s) (h' : d.Denotes s') : s = s' := by
  obtain ⟨c, t, e, q⟩ := s
  obtain ⟨c', t', e', q'⟩ := s'
  obtain rfl : c = c' := isNaming_chromaticities.unique h.chromaticities h'.chromaticities
  obtain rfl : t = t' := isNaming_transfer.unique h.transfer h'.transfer
  obtain rfl : e = e' := isNaming_encoding.unique h.encoding h'.encoding
  obtain rfl : q = q' := h.quantization.trans h'.quantization.symm
  rfl

/-- **A description is refused or resolves to what it denotes.** -/
theorem toSurface_cases (d : Description Float32) :
    (d.refusal? = none ∧ ∃ s, d.toSurface = .ok s ∧ d.Denotes s) ∨
      ∃ e, d.refusal? = some e ∧ d.toSurface = .error e := by
  unfold refusal? toSurface
  rcases isNaming_chromaticities.resolve_cases d.chromaticities with
    ⟨hc, c, hcok, hcname⟩ | ⟨e, hc, herror⟩
  · rcases isNaming_transfer.resolve_cases d.transfer with ⟨ht, t, htok, htname⟩ | ⟨e, ht, herror⟩
    · rcases isNaming_encoding.resolve_cases d.encoding with
        ⟨he, e, heok, hename⟩ | ⟨e, he, herror⟩
      · rcases d.checkedMultiplier_cases with ⟨hk, k, hkok⟩ | ⟨e, hk, herror⟩
        · rw [hc, ht, he, hk, hcok, htok, heok, hkok]
          exact .inl ⟨rfl, ⟨c, t, e, .ofFull d.fullRange⟩, rfl, hcname, htname, hename, rfl⟩
        · rw [hc, ht, he, hk, hcok, htok, heok, herror]
          exact .inr ⟨e, rfl, rfl⟩
      · rw [hc, ht, he, hcok, htok, herror]
        exact .inr ⟨e, rfl, rfl⟩
    · rw [hc, ht, hcok, herror]
      exact .inr ⟨e, rfl, rfl⟩
  · rw [hc, herror]
    exact .inr ⟨e, rfl, rfl⟩

theorem toSurface_eq_error_iff {e : Error Float32} :
    d.toSurface = .error e ↔ d.refusal? = some e := by
  rcases d.toSurface_cases with ⟨hnone, s, hs, -⟩ | ⟨e', hsome, herror⟩
  · simp [hnone, hs]
  · simp [hsome, herror]

/-- A description resolves exactly to the state that it denotes, unless it is refused. -/
theorem toSurface_eq_ok_iff : d.toSurface = .ok s ↔ d.refusal? = none ∧ d.Denotes s := by
  rcases d.toSurface_cases with ⟨hnone, s', hs', hdenotes⟩ | ⟨e, hsome, herror⟩
  · rw [hs', Except.ok.injEq]
    constructor
    · rintro rfl
      exact ⟨hnone, hdenotes⟩
    · rintro ⟨-, h⟩
      exact hdenotes.unique h
  · simp [hsome, herror]

/-- A description is not refused if all its fields are in order. -/
theorem refusal?_eq_none_iff : d.refusal? = none ↔
    (∀ name ∈ d.chromaticities,
      name ≠ "sRGB" ∧ ∃ cs ∈ (Colorspace.table : List (Colorspace Float32)), cs.name = name) ∧
    (∀ name ∈ d.transfer, ∃ tf : TransferFunction, tf.name = name) ∧
    (∀ name ∈ d.encoding,
      ∃ e ∈ (ColorEncoding.table : List (ColorEncoding Float32)), e.name = name) ∧
    ∀ k ∈ d.multiplier, k.isFinite = true ∧ 0 < k := by
  simp only [refusal?, Option.or_eq_none_iff, unknown?_eq_none_iff, unfit?_eq_none_iff,
    isColorspaceName_iff, isTransferName_iff, isEncodingName_iff]

end Description

/-! ### What the state resolves to -/

namespace Color

variable (s : Color)

/-- The colorspace of a surface bears the name of its chromaticities. -/
theorem map_name_colorspace? :
    (s.colorspace? : Option (Colorspace Float32)).map (·.name) = s.chromaticities.name? := by
  unfold colorspace?
  cases s.chromaticities <;> rfl

/-- The encoding of a surface bears the name that the client has given, or that of BT.601. -/
theorem name_colorEncoding :
    (s.colorEncoding : ColorEncoding Float32).name = s.encoding.givenName?.getD "BT.601" := by
  unfold colorEncoding
  cases s.encoding <;> rfl

/-- **Every state is reached by the codes of its values**, whatever came before. -/
theorem handle_codes (s₀ : Color) :
    Change.runFrom (do
      handle (.colorspaceCodes s.chromaticities.code s.transfer.code)
      handle (.ycbcrCodes s.encoding.code s.quantization.code)) s₀ = (.ok (), s) := by
  simp only [handle, setColorspaceCodes, setYcbcrEncodingCodes, Wire.Chromaticities.ofCode_code,
    Wire.Transfer.ofCode_code, Wire.Encoding.ofCode_code, Wire.Quantization.ofCode_code]
  rfl

end Color

/-- **A description resolves to the state that its names denote, or fails at its first bad field.**
It resolves exactly if its colorspace is a built-in one and not called by the second name of BT.709,
its transfer function and its encoding are known, and its multiplier is finite and positive, each of
them as far as it is there. The error is that of the first field that is not so, with the name or
the value in it. The state is the one whose values bear the names; its colorspace, curve and
encoding bear them too, with a default for each that is missing; and two requests with the codes of
its values reach it. -/
theorem Description.toSurface_denotes (d : Description Float32) :
    ((∃ s, d.toSurface = .ok s) ↔
      (∀ name ∈ d.chromaticities,
        name ≠ "sRGB" ∧ ∃ cs ∈ (Colorspace.table : List (Colorspace Float32)), cs.name = name) ∧
      (∀ name ∈ d.transfer, ∃ tf : TransferFunction, tf.name = name) ∧
      (∀ name ∈ d.encoding,
        ∃ e ∈ (ColorEncoding.table : List (ColorEncoding Float32)), e.name = name) ∧
      ∀ k ∈ d.multiplier, k.isFinite = true ∧ 0 < k) ∧
    (∀ e, d.toSurface = .error e ↔ d.refusal? = some e) ∧
    ∀ s, d.toSurface = .ok s → d.Denotes s ∧
      (s.colorspace? : Option (Colorspace Float32)).map (·.name) = d.chromaticities ∧
      s.transferFunction.name = d.transfer.getD "Linear" ∧
      (s.colorEncoding : ColorEncoding Float32).name = d.encoding.getD "BT.601" ∧
      s.isFullRange = d.fullRange ∧
      Color.Change.runFrom (do
        Color.handle (.colorspaceCodes s.chromaticities.code s.transfer.code)
        Color.handle (.ycbcrCodes s.encoding.code s.quantization.code)) {} = (.ok (), s) := by
  refine ⟨?_, fun e => toSurface_eq_error_iff, fun s hs => ?_⟩
  · rw [← refusal?_eq_none_iff]
    rcases d.toSurface_cases with ⟨hnone, s, hs, -⟩ | ⟨e, hsome, herror⟩
    · exact iff_of_true ⟨s, hs⟩ hnone
    · simp [hsome, herror]
  · obtain ⟨-, h⟩ := toSurface_eq_ok_iff.mp hs
    refine ⟨h, ?_, ?_, ?_, ?_, s.handle_codes {}⟩
    · rw [s.map_name_colorspace?, h.chromaticities]
    · rw [Color.transferFunction, TransferFunction.name_ofWire, h.transfer]
    · rw [s.name_colorEncoding, h.encoding]
    · rw [Color.isFullRange, h.quantization]
      cases d.fullRange <;> rfl

end Surface
end Colorimetry
