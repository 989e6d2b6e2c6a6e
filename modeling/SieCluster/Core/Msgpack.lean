import Mathlib

/-!
# Flat named MessagePack records

A flat record is a map from field names to numbers, texts and byte strings.  The
writer picks the shortest marker for every length and number, as `rmp` does; the
reader takes back what the writer wrote.  The size lemmas tell when exchanging
one value for another cannot make a record longer.
-/

namespace SieCluster.Msgpack

open List

abbrev Bytes := List UInt8

inductive Scalar where
  | uint (value : ℕ)
  | str (text : String)
  | bin (bytes : Bytes)
  deriving DecidableEq

abbrev Record := List (String × Scalar)

/-! ## Numbers -/

/-- The byte at every place of a number below `256 ^ width`, highest place
first. -/
def bigEndian (width value : ℕ) : Bytes :=
  (List.range width).reverse.map fun place => UInt8.ofNat (value / 256 ^ place)

def ofBigEndian (bytes : Bytes) : ℕ :=
  Nat.ofDigits 256 (bytes.reverse.map UInt8.toNat)

@[simp]
theorem length_bigEndian (width value : ℕ) : (bigEndian width value).length = width := by
  simp [bigEndian]

/-- The digits of a number up to some place make up its remainder there. -/
theorem ofDigits_places (width value : ℕ) :
    Nat.ofDigits 256 ((List.range width).map fun place => value / 256 ^ place % 256) =
      value % 256 ^ width := by
  induction width with
  | zero => simp [Nat.mod_one]
  | succ _ ih =>
    rw [range_succ, map_append, Nat.ofDigits_append, ih, Nat.mod_pow_succ]
    simp

variable {length : ℕ}

theorem ofBigEndian_bigEndian (hvalue : value < 256 ^ width) :
    ofBigEndian (bigEndian width value) = value := by
  have hplaces : (bigEndian width value).reverse.map UInt8.toNat =
      (List.range width).map fun place => value / 256 ^ place % 256 := by
    simp [bigEndian, ← map_reverse, Function.comp_def]
  rw [ofBigEndian, hplaces, ofDigits_places, Nat.mod_eq_of_lt hvalue]

/-! ## Writing -/

/-- A marker byte followed by a number of fixed width. -/
def marked (marker : UInt8) (width value : ℕ) : Bytes :=
  marker :: bigEndian width value

@[simp]
theorem length_marked (marker : UInt8) (width value : ℕ) :
    (marked marker width value).length = width + 1 := by
  simp [marked]

def writeUint (value : ℕ) : Bytes :=
  if value < 128 then [UInt8.ofNat value]
  else if value < 2 ^ 8 then marked 0xcc 1 value
  else if value < 2 ^ 16 then marked 0xcd 2 value
  else if value < 2 ^ 32 then marked 0xce 4 value
  else marked 0xcf 8 value

section

variable (length : ℕ)

def writeStrLen : Bytes :=
  if length < 32 then [UInt8.ofNat (0xa0 + length)]
  else if length < 2 ^ 8 then marked 0xd9 1 length
  else if length < 2 ^ 16 then marked 0xda 2 length
  else marked 0xdb 4 length

def writeBinLen : Bytes :=
  if length < 2 ^ 8 then marked 0xc4 1 length
  else if length < 2 ^ 16 then marked 0xc5 2 length
  else marked 0xc6 4 length

def writeMapLen : Bytes :=
  if length < 16 then [UInt8.ofNat (0x80 + length)]
  else if length < 2 ^ 16 then marked 0xde 2 length
  else marked 0xdf 4 length

def utf8 (text : String) : Bytes :=
  text.toByteArray.data.toList

def writeScalar : Scalar → Bytes
  | .uint value => writeUint value
  | .str text => writeStrLen (utf8 text).length ++ utf8 text
  | .bin bytes => writeBinLen bytes.length ++ bytes

def writeField (field : String × Scalar) : Bytes :=
  writeScalar (.str field.1) ++ writeScalar field.2

def writeRecord (record : Record) : Bytes :=
  writeMapLen record.length ++ record.flatMap writeField

/-! ## Sizes -/

theorem length_writeUint_of_lt (hvalue : value < 128) : (writeUint value).length = 1 := by
  simp [writeUint, hvalue]

theorem length_writeBinLen_mono (hle : shorter ≤ longer) :
    (writeBinLen shorter).length ≤ (writeBinLen longer).length := by
  unfold writeBinLen
  split_ifs <;> simp only [length_marked] <;> omega

/-- A longer byte string has a longer encoding. -/
theorem length_writeScalar_bin_mono (hle : shorter.length ≤ longer.length) :
    (writeScalar (.bin shorter)).length ≤ (writeScalar (.bin longer)).length := by
  have hheader := length_writeBinLen_mono hle
  simp only [writeScalar, length_append]
  omega

theorem length_writeScalar_uint_le (value : ℕ) : (writeScalar (.uint value)).length ≤ 9 := by
  simp only [writeScalar, writeUint]
  split_ifs <;> simp

theorem length_writeScalar_str_le (text : String) :
    (writeScalar (.str text)).length ≤ (utf8 text).length + 5 := by
  simp only [writeScalar, writeStrLen, length_append]
  split_ifs <;> simp <;> omega

variable (bytes : Bytes)

theorem length_writeScalar_bin_le : (writeScalar (.bin bytes)).length ≤ bytes.length + 5 := by
  simp only [writeScalar, writeBinLen, length_append]
  split_ifs <;> simp <;> omega

/-! ## Reading -/

def readExact (count : ℕ) (bytes : Bytes) : Option (Bytes × Bytes) :=
  if bytes.length < count then none else some (bytes.splitAt count)

def readNumber (width : ℕ) (bytes : Bytes) : Option (ℕ × Bytes) :=
  (readExact width bytes).map fun (digits, rest) => (ofBigEndian digits, rest)

def readStr : Option (Scalar × Bytes) :=
  (readExact length bytes).bind fun (text, rest) =>
    (String.fromUTF8? ⟨text.toArray⟩).map fun text => (.str text, rest)

def readBin : Option (Scalar × Bytes) :=
  (readExact length bytes).map fun (content, rest) => (.bin content, rest)

end

/-- A length of fixed width, and what it is the length of. -/
def readSized (width : ℕ) (read : ℕ → Bytes → Option (Scalar × Bytes))
    (bytes : Bytes) : Option (Scalar × Bytes) :=
  (readNumber width bytes).bind fun (length, rest) => read length rest

def readUint (width : ℕ) (bytes : Bytes) : Option (Scalar × Bytes) :=
  (readNumber width bytes).map fun (value, rest) => (.uint value, rest)

/-- The next value.  Markers of other kinds of values are refused. -/
def readScalar : Bytes → Option (Scalar × Bytes)
  | [] => none
  | marker :: rest =>
    let marker := marker.toNat
    if marker < 0x80 then some (.uint marker, rest)
    else if 0xa0 ≤ marker ∧ marker < 0xc0 then readStr (marker - 0xa0) rest
    else if marker = 0xc4 then readSized 1 readBin rest
    else if marker = 0xc5 then readSized 2 readBin rest
    else if marker = 0xc6 then readSized 4 readBin rest
    else if marker = 0xcc then readUint 1 rest
    else if marker = 0xcd then readUint 2 rest
    else if marker = 0xce then readUint 4 rest
    else if marker = 0xcf then readUint 8 rest
    else if marker = 0xd9 then readSized 1 readStr rest
    else if marker = 0xda then readSized 2 readStr rest
    else if marker = 0xdb then readSized 4 readStr rest
    else none

def readFields : ℕ → Bytes → Option (Record × Bytes)
  | 0, bytes => some ([], bytes)
  | count + 1, bytes =>
    match readScalar bytes with
    | some (.str name, bytes) =>
      match readScalar bytes with
      | some (value, bytes) =>
        (readFields count bytes).map fun (fields, rest) =>
          ((name, value) :: fields, rest)
      | none => none
    | _ => none

def readMapLen : Bytes → Option (ℕ × Bytes)
  | [] => none
  | marker :: rest =>
    let marker := marker.toNat
    if 0x80 ≤ marker ∧ marker < 0x90 then some (marker - 0x80, rest)
    else if marker = 0xde then readNumber 2 rest
    else if marker = 0xdf then readNumber 4 rest
    else none

def readRecord (bytes : Bytes) : Option Record :=
  (readMapLen bytes).bind fun (count, rest) =>
    (readFields count rest).map Prod.fst

/-! ## Reading back what was written -/

theorem readExact_append (bytes rest : Bytes) :
    readExact bytes.length (bytes ++ rest) = some (bytes, rest) := by
  have henough : ¬ (bytes ++ rest).length < bytes.length := by simp
  rw [readExact, if_neg henough, splitAt_eq, take_left, drop_left]

theorem readNumber_bigEndian (hvalue : value < 256 ^ width) (rest : Bytes) :
    readNumber width (bigEndian width value ++ rest) = some (value, rest) := by
  have htake := readExact_append (bigEndian width value) rest
  rw [length_bigEndian] at htake
  simp [readNumber, htake, ofBigEndian_bigEndian hvalue]

theorem readBin_append (content rest : Bytes) :
    readBin content.length (content ++ rest) = some (.bin content, rest) := by
  simp [readBin, readExact_append]

theorem fromUTF8?_utf8 (text : String) : String.fromUTF8? ⟨(utf8 text).toArray⟩ = some text := by
  have hbytes : (⟨(utf8 text).toArray⟩ : ByteArray) = text.toByteArray := by
    simp [utf8]
  rw [hbytes, String.fromUTF8?, dif_pos text.isValidUTF8]
  rfl

theorem readStr_utf8 (text : String) (rest : Bytes) :
    readStr (utf8 text).length (utf8 text ++ rest) = some (.str text, rest) := by
  simp [readStr, readExact_append, fromUTF8?_utf8]

theorem readSized_bigEndian (read : ℕ → Bytes → Option (Scalar × Bytes))
    (hlength : length < 256 ^ width) (rest : Bytes) :
    readSized width read (bigEndian width length ++ rest) = read length rest := by
  simp [readSized, readNumber_bigEndian hlength]

theorem readUint_bigEndian (hvalue : value < 256 ^ width) (rest : Bytes) :
    readUint width (bigEndian width value ++ rest) = some (.uint value, rest) := by
  simp [readUint, readNumber_bigEndian hvalue]

/-- What the format has room for. -/
def Scalar.Fits : Scalar → Prop
  | .uint value => value < 2 ^ 64
  | .str text => (utf8 text).length < 2 ^ 32
  | .bin bytes => bytes.length < 2 ^ 32

theorem readScalar_writeUint (hvalue : value < 2 ^ 64) (rest : Bytes) :
    readScalar (writeUint value ++ rest) = some (.uint value, rest) := by
  unfold writeUint
  split_ifs with hfix hbyte hword hlong
  · have hmarker : (UInt8.ofNat value).toNat = value := by
      simp only [UInt8.toNat_ofNat']
      omega
    simp [readScalar, hmarker, hfix]
  · simpa [readScalar, marked] using readUint_bigEndian (by simpa using hbyte) rest
  · simpa [readScalar, marked] using readUint_bigEndian (by simpa using hword) rest
  · simpa [readScalar, marked] using readUint_bigEndian (by simpa using hlong) rest
  · simpa [readScalar, marked] using readUint_bigEndian (by simpa using hvalue) rest

theorem readScalar_writeStrLen (hlength : length < 2 ^ 32) (rest : Bytes) :
    readScalar (writeStrLen length ++ rest) = readStr length rest := by
  unfold writeStrLen
  split_ifs with hfix hbyte hword
  · have hmarker : (UInt8.ofNat (0xa0 + length)).toNat = 0xa0 + length := by
      simp only [UInt8.toNat_ofNat']
      omega
    have hrange : ¬ 0xa0 + length < 0x80 ∧ 0xa0 + length < 0xc0 := by omega
    simp only [readScalar, cons_append, nil_append, hmarker, if_neg hrange.1,
      if_pos (And.intro (Nat.le_add_right 0xa0 length) hrange.2),
      Nat.add_sub_cancel_left]
  · simpa [readScalar, marked] using
      readSized_bigEndian readStr (by simpa using hbyte) rest
  · simpa [readScalar, marked] using
      readSized_bigEndian readStr (by simpa using hword) rest
  · simpa [readScalar, marked] using
      readSized_bigEndian readStr (by simpa using hlength) rest

theorem readScalar_writeBinLen (hlength : length < 2 ^ 32) (rest : Bytes) :
    readScalar (writeBinLen length ++ rest) = readBin length rest := by
  unfold writeBinLen
  split_ifs with hbyte hword
  · simpa [readScalar, marked] using
      readSized_bigEndian readBin (by simpa using hbyte) rest
  · simpa [readScalar, marked] using
      readSized_bigEndian readBin (by simpa using hword) rest
  · simpa [readScalar, marked] using
      readSized_bigEndian readBin (by simpa using hlength) rest

theorem readScalar_writeScalar {value : Scalar} (hfits : value.Fits) (rest : Bytes) :
    readScalar (writeScalar value ++ rest) = some (value, rest) := by
  cases value with
  | uint => exact readScalar_writeUint hfits rest
  | str =>
    rw [writeScalar, append_assoc, readScalar_writeStrLen hfits, readStr_utf8]
  | bin =>
    rw [writeScalar, append_assoc, readScalar_writeBinLen hfits, readBin_append]

theorem readFields_writeField {record : Record}
    (hfits : ∀ field ∈ record, (Scalar.str field.1).Fits ∧ field.2.Fits) (rest : Bytes) :
    readFields record.length (record.flatMap writeField ++ rest) = some (record, rest) := by
  induction record with
  | nil => rfl
  | cons field _ ih =>
    obtain ⟨hname, hvalue⟩ := hfits field (by simp)
    have htail := ih fun other hother => hfits other (by simp [hother])
    simp only [flatMap_cons, writeField, append_assoc,
      length_cons, readFields, readScalar_writeScalar hname,
      readScalar_writeScalar hvalue, htail, Option.map_some]

theorem readMapLen_writeMapLen (hlength : length < 2 ^ 32) (rest : Bytes) :
    readMapLen (writeMapLen length ++ rest) = some (length, rest) := by
  unfold writeMapLen
  split_ifs with hfix hword
  · have hmarker : (UInt8.ofNat (0x80 + length)).toNat = 0x80 + length := by
      simp only [UInt8.toNat_ofNat']
      omega
    have hrange : 0x80 + length < 0x90 := by omega
    simp only [readMapLen, cons_append, nil_append, hmarker,
      if_pos (And.intro (Nat.le_add_right 0x80 length) hrange),
      Nat.add_sub_cancel_left]
  · simpa [readMapLen, marked] using readNumber_bigEndian (by simpa using hword) rest
  · simpa [readMapLen, marked] using
      readNumber_bigEndian (by simpa using hlength) rest

/-- The reader takes back every record the format has room for. -/
theorem readRecord_writeRecord (hlength : record.length < 2 ^ 32)
    (hfits : ∀ field ∈ record, (Scalar.str field.1).Fits ∧ field.2.Fits) :
    readRecord (writeRecord record) = some record := by
  have hfields := readFields_writeField hfits []
  rw [append_nil] at hfields
  simp [readRecord, writeRecord, readMapLen_writeMapLen hlength, hfields]

end SieCluster.Msgpack
