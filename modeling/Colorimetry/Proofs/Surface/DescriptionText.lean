import Mathlib
import Colorimetry.Surface.DescriptionText
import Colorimetry.Proofs.Yaml.Reading
import Colorimetry.Proofs.Yaml.Values

/-!
# Descriptions written and read

A description is written as one line for each field that is present, and read entry by entry. `Reads`
says of a text what its entries make of the fields that have been read before, as a triple of a text
between two states; it holds of one entry (`Reads.entry`), and of texts one behind the other
(`Reads.append`).

Names are read back as they were, whatever printable ASCII characters they are of, and so is the range.
The multiplier goes through two roundings: it comes back as `Number.afterReading` has it. **So a
description survives, unless its multiplier has the one magnitude that does not** (`read_write`,
`survives_iff`).
-/

namespace Colorimetry.Surface.Description

open Yaml (Line IsKey IsWritten)

/-! ### Texts and fields -/

/-- The entries of a text take the fields that have been read from one state to another. -/
def Reads (text : String) (f g : Fields) : Prop :=
  ∃ ls : List Line, text.toList = Line.document ls ∧
    (ls.map fun l => (l.keyScalar, l.valueScalar)).foldlM
      (fun f (key, value) => Fields.read? f key value) f = some g

section Reads

variable {s t : String} {f g h : Fields}

/-- No text has no entries. -/
theorem Reads.empty : Reads "" f f := ⟨[], rfl, rfl⟩

/-- **Texts one behind the other** are read one after the other. -/
theorem Reads.append (hs : Reads s f g) (ht : Reads t g h) : Reads (s ++ t) f h := by
  obtain ⟨ls, htext, hls⟩ := hs
  obtain ⟨ls', htext', hls'⟩ := ht
  refine ⟨ls ++ ls', ?_, ?_⟩
  · rw [String.toList_append, htext, htext', Line.document, Line.document, Line.document,
      List.flatMap_append]
  · rw [List.map_append, List.foldlM_append, hls]
    exact hls'

/-- **An entry** is read as its key and its value. -/
theorem Reads.entry {key value written : String} {style : Yaml.Style} (hkey : IsKey key.toList)
    (hwritten : IsWritten value.toList style written.toList)
    (hread : Fields.read? f ⟨key, .plain, none⟩ ⟨value, style, none⟩ = some g) :
    Reads (Yaml.writeEntry key written) f g := by
  refine ⟨[⟨key.toList, value.toList, style, written.toList, hkey, hwritten⟩], ?_, ?_⟩
  · have hbreak : (written.toList.getLast?.map Yaml.breaksLine).getD false = false := by
      cases hlast : written.toList.getLast? with
      | none => rfl
      | some c => exact (hwritten.isAscii (List.mem_of_getLast? hlast)).breaksLine
    simp [Yaml.writeEntry, hbreak, Line.document, Line.chars]
  · simp [Line.keyScalar, Line.valueScalar, hread]

/-- **The line of a name** fills the field of its key. -/
theorem Reads.nameLine {key : String} {name : Option String} (fill : Option (Option String) → Fields)
    (hkey : IsKey key.toList) (hname : ∀ n ∈ name, ∀ c ∈ n.toList, Yaml.IsAscii c)
    (hfill : ∀ value, Fields.read? (fill none) ⟨key, .plain, none⟩ value =
      (fill? none (optional? text? value)).map fill) :
    Reads (Description.nameLine key name) (fill none) (fill (name.map some)) := by
  cases name with
  | none => exact .empty
  | some n =>
    obtain ⟨style, hwritten, hpresent⟩ := Yaml.exists_isWritten_writeText (hname n rfl)
    refine .entry hkey hwritten ?_
    simp [hfill, fill?, optional?, hpresent, text?]

/-- **The line of the range** is a truth value. -/
theorem Reads.rangeLine (b : Bool) (hf : f.fullRange = none) :
    Reads (Yaml.writeEntry "full_range" (if b then "true" else "false")) f
      { f with fullRange := some b } := by
  refine .entry (by decide) (.plain (Yaml.isPlain_boolWord b)) ?_
  cases b <;>
    simp [Fields.read?, fill?, hf, Yaml.Scalar.bool?, Yaml.Scalar.spelling?, Yaml.boolOfWord?]

/-- **The line of the multiplier** is a number, which is rounded twice. -/
theorem Reads.multiplierLine {k : Float32} (hk : k.isNaN = false) (hf : f.multiplier = none) :
    Reads (Yaml.writeEntry "bpc_mul" (Number.Style.yaml.format k)) f
      { f with multiplier := some (some (Number.afterReading k)) } := by
  obtain ⟨literal, hnumber, hvalue⟩ := Yaml.exists_numberOfText?_format hk
  have hpresent := Yaml.isPresent?_of_numberOfText? hnumber
  refine .entry (by decide) (.plain (Yaml.isPlain_format hk)) ?_
  simp [Fields.read?, fill?, hf, optional?, hpresent, multiplier?, Yaml.Scalar.number?,
    Yaml.Scalar.spelling?, hnumber, hvalue]

end Reads

/-! ### Descriptions -/

/-- A description whose names are of printable ASCII characters and whose multiplier is a number. -/
structure IsWritable (d : Description Float32) : Prop where
  /-- The name of the colorspace, -/
  chromaticities : ∀ name ∈ d.chromaticities, ∀ c ∈ name.toList, Yaml.IsAscii c
  /-- of the transfer function, -/
  transfer : ∀ name ∈ d.transfer, ∀ c ∈ name.toList, Yaml.IsAscii c
  /-- and of the encoding. -/
  encoding : ∀ name ∈ d.encoding, ∀ c ∈ name.toList, Yaml.IsAscii c
  /-- The multiplier. -/
  multiplier : ∀ k ∈ d.multiplier, k.isNaN = false

variable {d : Description Float32}

/-- The fields that are read of a description. -/
def written (d : Description Float32) : Fields where
  chromaticities := d.chromaticities.map some
  transfer := d.transfer.map some
  encoding := d.encoding.map some
  fullRange := some d.fullRange
  multiplier := d.multiplier.map fun k => some (Number.afterReading k)

/-- **The text of a description** is read field by field. -/
theorem IsWritable.reads (hd : d.IsWritable) : Reads d.write {} d.written := by
  have hchromaticities : Reads (nameLine "chromaticities" d.chromaticities) {} _ :=
    .nameLine (fun name => ⟨name, none, none, none, none⟩) (by decide) hd.chromaticities fun _ => rfl
  have htransfer : Reads (nameLine "transfer" d.transfer) _ _ :=
    .nameLine (fun name => ⟨d.chromaticities.map some, name, none, none, none⟩) (by decide)
      hd.transfer fun _ => rfl
  have hencoding : Reads (nameLine "encoding" d.encoding) _ _ :=
    .nameLine (fun name => ⟨d.chromaticities.map some, d.transfer.map some, name, none, none⟩)
      (by decide) hd.encoding fun _ => rfl
  have hrange := ((hchromaticities.append htransfer).append hencoding).append
    (.rangeLine d.fullRange rfl)
  refine hrange.append ?_
  cases hmultiplier : d.multiplier with
  | none =>
    rw [written, hmultiplier]
    exact .empty
  | some k =>
    rw [written, hmultiplier]
    exact .multiplierLine (hd.multiplier k hmultiplier) rfl

/-- **What is read of a description that is written.** -/
theorem read_write (hd : d.IsWritable) :
    read d.write = .ok { d with multiplier := d.multiplier.map Number.afterReading } := by
  obtain ⟨ls, htext, hls⟩ := hd.reads
  -- there is a line in any case, that of the range
  have hne : ls ≠ [] := by
    rintro rfl
    have hrange := congrArg Fields.fullRange (Option.some.inj hls)
    cases hrange
  have hmapping := Line.readMapping?_document ls hne
  rw [← htext, String.ofList_toList] at hmapping
  have hfields : ofFields d.written =
      { d with multiplier := d.multiplier.map Number.afterReading } := by
    obtain ⟨chromaticities, transfer, encoding, fullRange, multiplier⟩ := d
    cases chromaticities <;> cases transfer <;> cases encoding <;> cases multiplier <;> rfl
  simp only [read, hmapping, Option.bind_some, ofEntries?, hls, Option.map_some, hfields]

/-- **A description survives unless its multiplier is the unlucky number**, of either sign. Everything
else survives in any case, and the unlucky number is moved by one place. -/
theorem survives_iff (hd : d.IsWritable) :
    read d.write = .ok { d with multiplier := d.multiplier.map Number.afterReading } ∧
      (read d.write = .ok d ↔ ∀ k ∈ d.multiplier, Number.magnitudeBits k ≠ Number.unlucky) := by
  refine ⟨read_write hd, ?_⟩
  rw [read_write hd, Except.ok.injEq]
  obtain ⟨chromaticities, transfer, encoding, fullRange, multiplier⟩ := d
  cases multiplier with
  | none => simp
  | some k => simp [Number.afterReading_eq_self_iff]

/-- Names that look like something else survive, and so does a multiplier of a table. -/
theorem survives_quoted_names :
    let d : Description Float32 :=
      ⟨some "null", some "it's: #1", some "", true, some (Float32.ofBits 0x42801f87)⟩
    d.IsWritable ∧ read d.write = .ok d := by
  intro d
  have hascii : ∀ name ∈ ["null", "it's: #1"],
      (name.toList.all fun c => decide (Yaml.IsAscii c)) = true := by decide
  have hwritable : d.IsWritable := by
    refine ⟨?_, ?_, ?_, ?_⟩
    · rintro _ ⟨⟩
      simpa using hascii "null" (by simp)
    · rintro _ ⟨⟩
      simpa using hascii "it's: #1" (by simp)
    · rintro _ ⟨⟩
      simp
    · rintro _ ⟨⟩
      decide +kernel
  refine ⟨hwritable, (survives_iff hwritable).2.mpr ?_⟩
  rintro _ ⟨⟩
  decide +kernel

/-- The unlucky multiplier comes back as the next number. -/
theorem unlucky_multiplier_moves :
    let d : Description Float32 := { multiplier := some (Float32.ofBits 0x15ae43fd) }
    d.IsWritable ∧ read d.write = .ok { multiplier := some (Float32.ofBits 0x15ae43fe) } ∧
      read d.write ≠ .ok d := by
  intro d
  have hwritable : d.IsWritable := by
    refine ⟨by simp [d], by simp [d], by simp [d], ?_⟩
    rintro _ ⟨⟩
    decide +kernel
  have hread : read d.write = .ok { multiplier := some (Float32.ofBits 0x15ae43fe) } := by
    have hmoves : Number.afterReading (Float32.ofBits 0x15ae43fd) = Float32.ofBits 0x15ae43fe := by
      decide +kernel
    rw [read_write hwritable]
    simp [d, hmoves]
  have hne : Float32.ofBits 0x15ae43fe ≠ Float32.ofBits 0x15ae43fd := by decide +kernel
  refine ⟨hwritable, hread, ?_⟩
  rw [hread]
  simp [d, hne]

end Colorimetry.Surface.Description
