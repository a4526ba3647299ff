import Mathlib
import Colorimetry.Transfer.Curve

/-!
# Names of curves

Three tables know the names of the transfer functions, each in an order of its own: the records, the
functions themselves, and the values that a client may send. This file shows that they are one set
of names, so that a name which one of them knows is known to all, and that what it leads to is the
same curve on every way.

The functions are the hub. A record is found exactly if a function is, and it is that function's
(`Record.find?_eq_map`); a wire value is found exactly if a function is, and it stands for that
function (`Wire.Transfer.ofName_eq_ok_iff`, `exists_ofWire_eq`). Neither needs to know the order of
a table, only that each finds its own names again.

Of the arithmetic one law is used, and only where a name is *not* known: that zero equals itself, by
which a record of zeros shows that it is one. The values of the curves are never opened, so that the
two ways from a name to a value agree to the last bit.
-/

namespace Colorimetry

open Transfer

/-! ### Finding by name -/

namespace TransferFunction

/-- A transfer function is found by its own name. -/
theorem ofName?_name (tf : TransferFunction) : ofName? tf.name = some tf := by
  cases tf <;> decide

/-- What is found has the name. -/
theorem ofName?_eq_some_iff {name : String} {tf : TransferFunction} :
    ofName? name = some tf ↔ tf.name = name := by
  constructor
  · intro h
    simpa using List.find?_some h
  · rintro rfl
    exact ofName?_name tf

end TransferFunction

namespace Wire.Transfer

/-- A value on the wire is found by its own name. -/
theorem ofName_name (t : Wire.Transfer) : ofName t.name = .ok t := by
  cases t <;> decide

/-- What is found on the wire has the name. -/
theorem ofName_eq_ok_iff {name : String} {t : Wire.Transfer} :
    ofName name = .ok t ↔ t.name = name := by
  constructor
  · intro h
    unfold ofName at h
    split at h
    · next hfind =>
      cases h
      simpa using List.find?_some hfind
    · cases h
  · rintro rfl
    exact ofName_name t

/-- A refused name is handed back. -/
theorem ofName_eq_error {name : String} (h : ∀ t : Wire.Transfer, t.name ≠ name) :
    ofName name = .error (.unknownTransfer name) := by
  unfold ofName
  split
  · next t hfind => exact absurd (by simpa using List.find?_some hfind) (h t)
  · rfl

end Wire.Transfer

namespace TransferFunction

/-- A transfer function bears the name of the wire value that stands for it. -/
theorem name_ofWire (t : Wire.Transfer) : (ofWire t).name = t.name := by
  cases t <;> rfl

/-- Every transfer function has a value on the wire. -/
theorem exists_ofWire_eq (tf : TransferFunction) : ∃ t, ofWire t = tf := by
  cases tf with
  | bt709 => exact ⟨.bt709, rfl⟩
  | smpte240m => exact ⟨.smpte240m, rfl⟩
  | srgb => exact ⟨.srgb, rfl⟩
  | adobeRgb => exact ⟨.adobeRgb, rfl⟩
  | dciP3 => exact ⟨.dciP3, rfl⟩
  | proPhotoRgb => exact ⟨.proPhotoRgb, rfl⟩
  | st2084 => exact ⟨.st2084, rfl⟩
  | linear => exact ⟨.linear, rfl⟩
  | hlg => exact ⟨.hlg, rfl⟩

/-- **A name means on the wire what it means elsewhere.** -/
theorem exists_wire_of_ofName? {name : String} {tf : TransferFunction}
    (h : ofName? name = some tf) : ∃ t, Wire.Transfer.ofName name = .ok t ∧ ofWire t = tf := by
  obtain ⟨t, rfl⟩ := exists_ofWire_eq tf
  refine ⟨t, Wire.Transfer.ofName_eq_ok_iff.mpr ?_, rfl⟩
  rw [← name_ofWire, ofName?_eq_some_iff.mp h]

/-- A name of no transfer function is refused on the wire. -/
theorem wire_ofName_of_ofName?_eq_none {name : String} (h : ofName? name = none) :
    Wire.Transfer.ofName name = .error (.unknownTransfer name) := by
  refine Wire.Transfer.ofName_eq_error ?_
  rintro t rfl
  have hfound := ofName?_name (ofWire t)
  rw [name_ofWire, h] at hfound
  cases hfound

end TransferFunction

/-! ### Records by name -/

section Records

variable {α : Type} [Arithmetic α]

namespace TransferFunction

/-- A record bears the name of its transfer function. -/
theorem name_record (tf : TransferFunction) : (tf.record : Record α).name = tf.name := by
  cases tf <;> rfl

end TransferFunction

namespace Transfer.Record

/-- **The record of a name is that of the transfer function of that name.** -/
theorem find?_eq_map (name : String) :
    (find? name : Option (Record α)) =
      (TransferFunction.ofName? name).map TransferFunction.record := by
  have htable : (table : List (Record α)) = TransferFunction.all.map TransferFunction.record := rfl
  have hname : ((fun c : Record α => c.name == name) ∘ TransferFunction.record) =
      fun tf => tf.name == name := by
    funext tf
    exact congrArg (· == name) (TransferFunction.name_record tf)
  rw [find?, htable, List.find?_map, hname]
  rfl

/-- Decoding keeps the name, also of a record of zeros. -/
theorem name_decoding (c : Record α) : c.decoding.name = c.name := by
  unfold decoding
  split <;> rfl

section Known

variable {name : String} {tf : TransferFunction}

theorem lookupEncoding_of_known (h : TransferFunction.ofName? name = some tf) :
    (lookupEncoding name : Record α) = tf.record := by
  rw [lookupEncoding, find?_eq_map, h]
  rfl

theorem lookupDecoding_of_known (h : TransferFunction.ofName? name = some tf) :
    (lookupDecoding name : Record α) = tf.record.decoding := by
  simp only [lookupDecoding, find?_eq_map, h, Option.map_some]

/-- A record under a known name is known, whatever its coefficients. -/
theorem isUnknown_of_known {c : Record α} (h : TransferFunction.ofName? c.name = some tf) :
    c.isUnknown = false := by
  simp [isUnknown, find?_eq_map, h]

end Known

section Unknown

variable {name : String}

theorem lookupEncoding_of_unknown (h : TransferFunction.ofName? name = none) :
    (lookupEncoding name : Record α) = zeroed name := by
  rw [lookupEncoding, find?_eq_map, h]
  rfl

theorem lookupDecoding_of_unknown (h : TransferFunction.ofName? name = none) :
    (lookupDecoding name : Record α) = zeroed name := by
  simp only [lookupDecoding, find?_eq_map, h, Option.map_none]

/-- Zeros under an unknown name are unknown, if zero equals itself. -/
theorem isUnknown_zeroed (hzero : ((0 : α) == 0) = true)
    (h : TransferFunction.ofName? name = none) : (zeroed name : Record α).isUnknown = true := by
  simp [isUnknown, isZero, zeroed, find?_eq_map, h, hzero]

end Unknown

end Transfer.Record

/-! ### Curves by name -/

namespace Transfer.Curve

variable {name : String}

theorem ofName_of_known {tf : TransferFunction} (h : TransferFunction.ofName? name = some tf)
    (direction : Direction) :
    (ofName name direction : Except LookupError (Curve α)) = .ok (tf.curve direction) := by
  simp only [ofName, TransferFunction.ofName, h]
  rfl

theorem ofName_of_unknown (h : TransferFunction.ofName? name = none) (direction : Direction) :
    (ofName name direction : Except LookupError (Curve α)) = .error (.unknownTransfer name) := by
  simp only [ofName, TransferFunction.ofName, h]
  rfl

end Transfer.Curve

end Records

/-! ### Values by name -/

section Values

variable {α : Type} [Scalar α] [Elementary α]

namespace TransferFunction

/-- The name in an encoding record selects the formula of its curve. -/
theorem encodeNamed_record (tf : TransferFunction) (l : α) :
    tf.record.encodeNamed l = tf.encode l := by
  rw [Record.encodeNamed, name_record]
  cases tf <;> rfl

/-- The name in a decoding record selects the formula of its curve. -/
theorem decodeNamed_decoding_record (tf : TransferFunction) (v : α) :
    tf.record.decoding.decodeNamed v = tf.decode v := by
  rw [Record.decodeNamed, Record.name_decoding, name_record]
  cases tf <;> rfl

end TransferFunction

omit [Elementary α] in
/-- **A name is known to all tables or to none.** -/
theorem known_tfae (hzero : ((0 : α) == 0) = true) (name : String) :
    [(TransferFunction.ofName? name).isSome = true,
      ∃ t, Wire.Transfer.ofName name = .ok t,
      ∃ c : Curve α, Curve.ofName name .encode = .ok c,
      ∃ c : Curve α, Curve.ofName name .decode = .ok c,
      (Record.lookupEncoding name : Record α).isUnknown = false,
      (Record.lookupDecoding name : Record α).isUnknown = false].TFAE := by
  cases h : TransferFunction.ofName? name with
  | none =>
    -- a look-up that cannot fail answers with zeros, which only here are unknown
    refine List.tfae_of_forall False _ ?_
    have hwire := TransferFunction.wire_ofName_of_ofName?_eq_none h
    have hcurve := Curve.ofName_of_unknown (α := α) h
    have hunknown := Record.isUnknown_zeroed hzero h
    simp [hwire, hcurve, Record.lookupEncoding_of_unknown h, Record.lookupDecoding_of_unknown h,
      hunknown]
  | some tf =>
    -- the records of the closed forms are zeros too, and known by their name alone
    refine List.tfae_of_forall True _ ?_
    obtain ⟨t, hwire, -⟩ := TransferFunction.exists_wire_of_ofName? h
    have hcurve := Curve.ofName_of_known (α := α) h
    have hencoding : TransferFunction.ofName? (tf.record : Record α).name = some tf := by
      rw [TransferFunction.name_record, TransferFunction.ofName?_name]
    have hdecoding : TransferFunction.ofName? (tf.record.decoding : Record α).name = some tf := by
      rw [Record.name_decoding, hencoding]
    simp [hwire, hcurve, Record.lookupEncoding_of_known h, Record.lookupDecoding_of_known h,
      Record.isUnknown_of_known hencoding, Record.isUnknown_of_known hdecoding]

/-- The values of a known name: by curve, by record and by function. -/
theorem values_of_known {name : String} {tf : TransferFunction}
    (h : TransferFunction.ofName? name = some tf) :
    (∃ c, Curve.ofName name .encode = .ok c ∧ ∀ x : α,
      (Record.lookupEncoding name).encodeNamed x = c.apply x ∧ c.apply x = tf.encode x) ∧
    ∃ c, Curve.ofName name .decode = .ok c ∧ ∀ x : α,
      (Record.lookupDecoding name).decodeNamed x = c.apply x ∧ c.apply x = tf.decode x := by
  refine ⟨⟨_, Curve.ofName_of_known h .encode, ?_⟩, ⟨_, Curve.ofName_of_known h .decode, ?_⟩⟩
  · intro x
    rw [Record.lookupEncoding_of_known h, TransferFunction.encodeNamed_record]
    exact ⟨rfl, rfl⟩
  · intro x
    rw [Record.lookupDecoding_of_known h, TransferFunction.decodeNamed_decoding_record]
    exact ⟨rfl, rfl⟩

/-- **The ways from a name to a value agree.** A name is known to all tables or to none. If it is
known, the curve of the name, the record of the name and the function on the wire have the same
values in both directions, in any arithmetic and to the last bit. If it is not, every look-up that
can fail hands the name back, and those that cannot hand back zeros under it. -/
theorem lookups_agree (hzero : ((0 : α) == 0) = true) (name : String) :
    [(TransferFunction.ofName? name).isSome = true,
      ∃ t, Wire.Transfer.ofName name = .ok t,
      ∃ c : Curve α, Curve.ofName name .encode = .ok c,
      ∃ c : Curve α, Curve.ofName name .decode = .ok c,
      (Record.lookupEncoding name : Record α).isUnknown = false,
      (Record.lookupDecoding name : Record α).isUnknown = false].TFAE ∧
    (∀ tf, TransferFunction.ofName? name = some tf →
      (∃ t, Wire.Transfer.ofName name = .ok t ∧ TransferFunction.ofWire t = tf) ∧
      (∃ c, Curve.ofName name .encode = .ok c ∧ ∀ x : α,
        (Record.lookupEncoding name).encodeNamed x = c.apply x ∧ c.apply x = tf.encode x) ∧
      ∃ c, Curve.ofName name .decode = .ok c ∧ ∀ x : α,
        (Record.lookupDecoding name).decodeNamed x = c.apply x ∧ c.apply x = tf.decode x) ∧
    (TransferFunction.ofName? name = none →
      Wire.Transfer.ofName name = .error (.unknownTransfer name) ∧
      (∀ direction, (Curve.ofName name direction : Except LookupError (Curve α)) =
        .error (.unknownTransfer name)) ∧
      (Record.lookupEncoding name : Record α) = Record.zeroed name ∧
      (Record.lookupDecoding name : Record α) = Record.zeroed name) := by
  refine ⟨known_tfae hzero name, ?_, ?_⟩
  · intro tf h
    exact ⟨TransferFunction.exists_wire_of_ofName? h, values_of_known h⟩
  · intro h
    exact ⟨TransferFunction.wire_ofName_of_ofName?_eq_none h, Curve.ofName_of_unknown h,
      Record.lookupEncoding_of_unknown h, Record.lookupDecoding_of_unknown h⟩

/-- Hybrid log-gamma in binary32, whose record of zeros is a known one. -/
theorem lookups_agree_hlg :
    ((0 : Float32) == 0) = true ∧ TransferFunction.ofName? "HLG" = some .hlg ∧
    (Record.lookupEncoding "HLG" : Record Float32).isUnknown = false ∧
    (∃ t, Wire.Transfer.ofName "HLG" = .ok t ∧ TransferFunction.ofWire t = .hlg) ∧
    (∃ c, Curve.ofName "HLG" .encode = .ok c ∧ ∀ x : Float32,
      (Record.lookupEncoding "HLG").encodeNamed x = c.apply x ∧
        c.apply x = TransferFunction.hlg.encode x) ∧
    ∃ c, Curve.ofName "HLG" .decode = .ok c ∧ ∀ x : Float32,
      (Record.lookupDecoding "HLG").decodeNamed x = c.apply x ∧
        c.apply x = TransferFunction.hlg.decode x := by
  have hzero : ((0 : Float32) == 0) = true := by decide
  have hname : TransferFunction.ofName? "HLG" = some .hlg := by decide
  obtain ⟨htfae, hknown, -⟩ := lookups_agree hzero "HLG"
  have hrecord := (htfae.out 0 4).mp (by rw [hname]; rfl)
  exact ⟨hzero, hname, hrecord, hknown .hlg hname⟩

end Values

end Colorimetry
