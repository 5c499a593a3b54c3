import Mathlib.Data.List.Forall2
import SqlBuilder.Proofs.Entries
import SqlBuilder.Result.Row

/-! # Documents that pass through cells

A document is read as a value by trial: the types of values are gone through in the order of their
declaration, and the first that the document fits is taken (`Value.readings`).  They overlap in many
places.  A list of bytes is also a document and also an array, and an integer of 32 bits is also one
of 64 and also a floating-point number; so a value need not come back as it was written.

Its document does (`Json.passes_through`).  What is read from a document is written as the same
document, whichever type was taken, unless the document is a floating-point number, or an integer
that only fits in 64 bits without a sign; these are rounded to 32 bits.  A row goes cell by cell.
-/
namespace SqlBuilder

/-! ### Reading by trial -/

/-- A number as a floating-point number of 32 bits. -/
def JsonNumber.toSingle : JsonNumber → Single
  | .integer n => Single.ofDatum (.finite (n.val < 0) n.val.natAbs 0)
  | .float x => x.toSingle

namespace Value

/-- The readings of a document as a value of each type, in the order of the declaration of the
types: each gives nothing for a document that does not fit. -/
def readings : List (Json → Option Value) :=
  [fun | .null => some .null | _ => none,
   fun | .bool b => some (.bool b) | _ => none,
   fun | .number (.integer n) => n.toInt32?.map .int32 | _ => none,
   fun | .number (.integer n) => n.toInt64?.map .int64 | _ => none,
   fun | .number n => some (.single n.toSingle) | _ => none,
   fun | .number n => some (.double n.toDouble) | _ => none,
   fun | .string s => some (.text s) | _ => none,
   fun | .array items => (items.mapM byte?).map .bytes | _ => none,
   fun j => some (.json j),
   fun | .array items => some (.array (items.map ofJson)) | _ => none]

/-- A natural number has the sign of no bit. -/
theorem toSingle_of_nonneg {n : WideInt} (nonneg : 0 ≤ n.val) :
    (JsonNumber.integer n).toSingle = Single.ofNat n.val.toNat := by
  have positive : ¬ n.val < 0 := Int.not_lt.mpr nonneg
  have magnitude : n.val.natAbs = n.val.toNat := by omega
  rw [JsonNumber.toSingle, decide_eq_false positive, magnitude, Single.ofDatum, Single.ofNat]
  simp [BinaryFormat.encode, BinaryFormat.signed, BinaryFormat.nearestScaled]

/-- **A document is read as the first type that it fits.** -/
theorem findSome?_readings (j : Json) :
    readings.findSome? (fun read => read j) = some (ofJson j) := by
  cases j with
  | null => rfl
  | bool b => rfl
  | string s => rfl
  | object members => rfl
  | array items =>
    simp only [readings, List.findSome?_cons, ofJson]
    cases items.mapM byte? <;> rfl
  | number n =>
    cases n with
    | float x => rfl
    | integer n =>
      simp only [readings, List.findSome?_cons, ofJson, ofWideInt]
      cases small : n.toInt32? with
      | some k => rfl
      | none =>
        cases large : n.toInt64? with
        | some k => rfl
        | none =>
          have nonneg : 0 ≤ n.val := by
            by_contra negative
            have fits : n.val < 9223372036854775808 := by omega
            simp [WideInt.toInt64?, fits] at large
          rw [← toSingle_of_nonneg nonneg]
          rfl

end Value

/-- The readings of a document as a row, in the order of their declaration. -/
def Row.readings : List (Json → Option Row) :=
  [fun
    | .object members =>
      some (ofPairs (members.map fun (name, cell) => (name, Value.ofJson cell)))
    | _ => none,
   fun | .array items => some (.positional (items.map Value.ofJson)) | _ => none]

/-- A document is read as the first kind of row that it fits, if there is one. -/
theorem Row.ofJson_eq_readings (j : Json) :
    ofJson j = (readings.findSome? fun read => read j).elim (.error .serialization) .ok := by
  cases j <;> rfl

/-! ### Documents that values keep -/

/-- A document that a value keeps as it is: any but a floating-point number, or an integer that has
no sign in its 64 bits. -/
def Json.Lossless : Json → Prop
  | .number (.integer n) => n.val < 9223372036854775808
  | .number (.float _) => False
  | _ => True

/-- A value whose document is kept: any but a floating-point number, or a document that is not. -/
def Value.Lossless : Value → Prop
  | .single _ | .double _ => False
  | .json j => j.Lossless
  | _ => True

/-- A document that a row keeps as it is: a list of such documents, or an object of them, whose keys
are distinct. -/
def Json.LosslessRow : Json → Prop
  | .array items => ∀ item ∈ items, item.Lossless
  | .object members => (Pairs.keys members).Nodup ∧ ∀ member ∈ members, member.2.Lossless
  | _ => False

namespace Value

/-- A byte that is read from a document is written as that document. -/
theorem byte?_exact {j : Json} {b : UInt8} (h : byte? j = some b) :
    .number (.integer (WideInt.ofByte b)) = j := by
  obtain _ | _ | (n | x) | _ | _ | _ := j <;> try cases h
  rw [byte?, WideInt.toByte?] at h
  split at h
  · next bounds =>
    cases h
    have small : n.val.toNat < 2 ^ 8 := by omega
    have value : ((UInt8.ofNat n.val.toNat).toNat : Int) = n.val := by
      rw [UInt8.toNat_ofNat_of_lt' small]
      omega
    obtain ⟨val, lower, upper⟩ := n
    simp only [WideInt.ofByte, value]
  · cases h

/-- Bytes that are read from documents are written as these documents. -/
theorem bytes?_exact {items : List Json} {bs : List UInt8} (h : items.mapM byte? = some bs) :
    bs.map (fun b => .number (.integer (WideInt.ofByte b))) = items := by
  induction items generalizing bs with
  | nil =>
    cases h
    rfl
  | cons item items ih =>
    rw [List.mapM_cons] at h
    obtain ⟨b, first, h⟩ := Option.bind_eq_some_iff.mp h
    obtain ⟨rest, others, h⟩ := Option.bind_eq_some_iff.mp h
    cases h
    rw [List.map_cons, byte?_exact first, ih others]

theorem byte?_ofByte (b : UInt8) : byte? (.number (.integer (WideInt.ofByte b))) = some b := by
  have bounds : (0 : Int) ≤ b.toNat ∧ (b.toNat : Int) < 256 := by
    have := b.toNat_lt
    omega
  simp [byte?, WideInt.toByte?, WideInt.ofByte, bounds]

/-- An integer, of 32 or 64 bits, that is a byte. -/
def IsByte (value : Value) (b : UInt8) : Prop :=
  value = .int32 (Int32.ofNat b.toNat) ∨ value = .int64 (Int64.ofNat b.toNat)

theorem IsByte.toJson_eq {value : Value} {b : UInt8} (h : value.IsByte b) :
    value.toJson = .number (.integer (WideInt.ofByte b)) := by
  have small := b.toNat_lt
  rcases h with rfl | rfl
  · have same : (Int32.ofNat b.toNat).toInt = b.toNat := Int32.toInt_ofNat_of_lt (by omega)
    simp [toJson, WideInt.ofInt64, WideInt.ofByte, same]
  · have same : (Int64.ofNat b.toNat).toInt = b.toNat := Int64.toInt_ofNat_of_lt (by omega)
    simp [toJson, WideInt.ofInt64, WideInt.ofByte, same]

/-- An array of integers that are bytes is read back as bytes. -/
theorem ofJson_toJson_bytes {items : List Value} {bs : List UInt8}
    (h : List.Forall₂ IsByte items bs) : ofJson (Value.array items).toJson = .bytes bs := by
  have documents : (itemsToJson items).mapM byte? = some bs := by
    induction h with
    | nil => rfl
    | cons first rest ih =>
      rw [itemsToJson, List.mapM_cons, first.toJson_eq, byte?_ofByte, ih]
      rfl
  rw [toJson, ofJson, documents]

theorem toJson_ofWideInt {n : WideInt} (fits : n.val < 9223372036854775808) :
    (ofWideInt n).toJson = .number (.integer n) := by
  obtain ⟨val, lower, upper⟩ := n
  rw [ofWideInt]
  by_cases small : -2147483648 ≤ val ∧ val < 2147483648
  · have value : (Int32.ofInt val).toInt = val := Int32.toInt_ofInt_of_le small.1 small.2
    simp [WideInt.toInt32?, small, toJson, WideInt.ofInt64, value]
  · have value : (Int64.ofInt val).toInt = val := Int64.toInt_ofInt_of_le lower fits
    simp [WideInt.toInt32?, WideInt.toInt64?, small, fits, toJson, WideInt.ofInt64, value]

/-- **A document comes back from the value** that it is read as. -/
theorem toJson_ofJson {j : Json} (kept : j.Lossless) : (ofJson j).toJson = j := by
  cases j with
  | null => rfl
  | bool b => rfl
  | string s => rfl
  | object members => rfl
  | number n =>
    cases n with
    | integer n => exact toJson_ofWideInt kept
    | float x => exact absurd kept id
  | array items =>
    rw [ofJson]
    cases read : items.mapM byte? with
    | some bs => exact congrArg Json.array (bytes?_exact read)
    | none => rfl

theorem Lossless.toJson {value : Value} (kept : value.Lossless) : value.toJson.Lossless := by
  cases value with
  | single x => exact absurd kept id
  | double x => exact absurd kept id
  | json j => exact kept
  | int32 n => exact n.toInt64.toInt_lt
  | int64 n => exact n.toInt_lt
  | _ => trivial

end Value

/-! ### Documents that rows keep -/

theorem Pairs.keys_mapValues {K V W : Type} (f : V → W) (entries : List (K × V)) :
    keys (entries.map fun (key, value) => (key, f value)) = keys entries := by
  simp [keys, Function.comp_def]

namespace Row

/-- A row that is read from a kept document is written as the same document. -/
theorem toJson_ofJson {j : Json} (kept : j.LosslessRow) :
    ∃ row, ofJson j = .ok row ∧ row.toJson = j := by
  have each {items : List Json} (kept : ∀ item ∈ items, item.Lossless) :
      (items.map Value.ofJson).map Value.toJson = items := by
    rw [List.map_map]
    refine (List.map_congr_left fun item member => ?_).trans items.map_id
    exact Value.toJson_ofJson (kept item member)
  cases j with
  | array items => exact ⟨_, rfl, congrArg Json.array (each kept)⟩
  | object members =>
    obtain ⟨distinct, kept⟩ := kept
    refine ⟨_, rfl, congrArg Json.object ?_⟩
    have keys := Pairs.keys_mapValues Value.ofJson members
    have stored := Pairs.dedupe_of_nodup (keys.symm ▸ distinct)
    show (Pairs.dedupe _).map _ = members
    rw [stored, List.map_map]
    refine (List.map_congr_left fun member given => ?_).trans members.map_id
    exact congrArg (Prod.mk member.1) (Value.toJson_ofJson (kept member given))
  | _ => exact absurd kept id

theorem lossless_toJson {row : Row} (kept : ∀ cell ∈ row.cells, cell.Lossless) :
    row.toJson.LosslessRow := by
  cases row with
  | positional cells =>
    intro item member
    obtain ⟨cell, given, rfl⟩ := List.mem_map.mp member
    exact (kept cell given).toJson
  | named m =>
    constructor
    · exact (Pairs.keys_mapValues Value.toJson m.toList).symm ▸ m.distinct
    · intro member given
      obtain ⟨entry, stored, rfl⟩ := List.mem_map.mp given
      exact (kept entry.2 (List.mem_map_of_mem stored)).toJson

end Row

/-- The keys of an object are distinct in every document that is read from a text. -/
theorem Json.nodup_keys_ofText? {text : String} {members : List (String × Json)}
    (read : Json.ofText? text = some (.object members)) : (Pairs.keys members).Nodup := by
  obtain ⟨tree, -, document⟩ := Option.bind_eq_some_iff.mp read
  cases tree with
  | object trees =>
    rw [JsonText.Tree.toJson?, if_neg (by decide)] at document
    obtain ⟨given, -, same⟩ := Option.map_eq_some_iff.mp document
    cases same
    exact Pairs.nodup_keys_dedupe given
  -- no other tree denotes an object
  | _ => simp [JsonText.Tree.toJson?, JsonText.maxDepth] at document

/-- **Documents pass through values and rows.**

* A document is read as the first type of value, in the order of their declaration, that it fits,
  and there always is one.
* A document other than a floating-point number, and than an integer beyond those of 64 bits with a
  sign, is written again as it was.
* So is a list of such documents, or an object of them, when it is read as a row.  The keys of an
  object have to be distinct, as they are in every document that is read from a text.
* So a value, or a row of values, that is neither a floating-point number nor a document that is not
  kept is written, read and written again as it was written first.
* The type of a value may change on the way: integers that are bytes come back as bytes, whatever
  list they were in. -/
theorem Json.passes_through :
    (∀ j : Json, Value.readings.findSome? (fun read => read j) = some (Value.ofJson j) ∧
      Row.ofJson j
        = (Row.readings.findSome? fun read => read j).elim (.error .serialization) .ok) ∧
    (∀ j : Json, j.Lossless → (Value.ofJson j).toJson = j) ∧
    (∀ j : Json, j.LosslessRow → ∃ row, Row.ofJson j = .ok row ∧ row.toJson = j) ∧
    (∀ text members, Json.ofText? text = some (.object members) → (Pairs.keys members).Nodup) ∧
    (∀ value : Value, value.Lossless → (Value.ofJson value.toJson).toJson = value.toJson) ∧
    (∀ row : Row, (∀ cell ∈ row.cells, cell.Lossless) →
      ∃ row', Row.ofJson row.toJson = .ok row' ∧ row'.toJson = row.toJson) ∧
    ∀ (items : List Value) (bs : List UInt8), List.Forall₂ Value.IsByte items bs →
      Value.ofJson (Value.array items).toJson = .bytes bs :=
  ⟨fun j => ⟨Value.findSome?_readings j, Row.ofJson_eq_readings j⟩,
    fun _ => Value.toJson_ofJson, fun _ => Row.toJson_ofJson, fun _ _ => Json.nodup_keys_ofText?,
    fun _ kept => Value.toJson_ofJson kept.toJson,
    fun _ kept => Row.toJson_ofJson (Row.lossless_toJson kept),
    fun _ _ => Value.ofJson_toJson_bytes⟩

/-- An object with the least and the greatest integer, an empty list, a list of several kinds and a
number inside a list; an integer and an array that come back as other types. -/
theorem Json.passes_through_limits :
    let least : Json := .number (.integer ⟨-9223372036854775808, by decide, by decide⟩)
    let greatest : Json := .number (.integer ⟨9223372036854775807, by decide, by decide⟩)
    let half : Json := .number (.float ⟨0x3FE0000000000000⟩)
    let mixed : Json := .array [greatest, .string "x", .array [], half]
    let row : Json := .object [("a", least), ("b", greatest), ("c", .array []), ("d", mixed)]
    let array : Value := .array [.int32 7, .int64 200]
    row.LosslessRow ∧ (∃ r, Row.ofJson row = .ok r ∧ r.toJson = row) ∧
      mixed.Lossless ∧ (Value.ofJson mixed).toJson = mixed ∧
      (Value.int64 7).Lossless ∧ Value.ofJson (Value.int64 7).toJson = .int32 7 ∧
      (Value.ofJson (Value.int64 7).toJson).toJson = (Value.int64 7).toJson ∧
      List.Forall₂ Value.IsByte [.int32 7, .int64 200] [7, 200] ∧
      Value.ofJson array.toJson = .bytes [7, 200] := by
  intro least greatest half mixed row array
  have kept : row.LosslessRow := by
    refine ⟨by decide, ?_⟩
    simp [Json.Lossless, least, greatest, mixed]
  have bytes : List.Forall₂ Value.IsByte [.int32 7, .int64 200] [7, 200] :=
    .cons (.inl rfl) (.cons (.inr rfl) .nil)
  obtain ⟨-, documents, rows, -, values, -, arrays⟩ := Json.passes_through
  exact ⟨kept, rows row kept, trivial, documents mixed trivial, trivial, rfl,
    values (.int64 7) trivial, bytes, arrays _ _ bytes⟩

end SqlBuilder
