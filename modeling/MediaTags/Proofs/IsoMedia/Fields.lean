import MediaTags.IsoMedia.Fields
import MediaTags.Proofs.Bytes

/-!
# Written fields

Numbers and rows of numbers are read off the front of a payload as they were written there. What
is read from any payload is bounded by its width.
-/

namespace MediaTags.IsoMedia

open Bytes (ofNumber takeBytes? takeNumber?)

/-- Four bytes for each number of a row. -/
def rowBytes (row : List Nat) : List UInt8 := row.flatMap (ofNumber 4)

/-- The numbers of a row that can be written in four bytes each. -/
def IsRow (columns : Nat) (row : List Nat) : Prop := row.length = columns ∧ ∀ n ∈ row, n < 256 ^ 4

instance (columns : Nat) (row : List Nat) : Decidable (IsRow columns row) :=
  inferInstanceAs (Decidable (_ ∧ _))

theorem takeBytes?_append (head rest : List UInt8) :
    takeBytes? head.length (head ++ rest) = some (head, rest) := by
  simp

theorem takeNumber?_ofNumber {width n : Nat} (h : n < 256 ^ width) (rest : List UInt8) :
    takeNumber? width (ofNumber width n ++ rest) = some (n, rest) := by
  have htake := takeBytes?_append (ofNumber width n) rest
  rw [Bytes.length_ofNumber] at htake
  simp only [takeNumber?, htake, Option.map_some, Bytes.bigEndian_ofNumber, Nat.mod_eq_of_lt h]

theorem takeNumber?_eq_none {width : Nat} {rest : List UInt8} (h : rest.length < width) :
    takeNumber? width rest = none := by
  rw [takeNumber?, Bytes.takeBytes?_eq, if_neg (Nat.not_le.2 h), Option.map_none]

theorem takeNumber_ofNumber {width n : Nat} (h : n < 256 ^ width) (rest : List UInt8) :
    takeNumber width (ofNumber width n ++ rest) = (n, rest) := by
  rw [takeNumber, takeNumber?_ofNumber h, Option.getD_some]

theorem skip_append (head rest : List UInt8) : skip head.length (head ++ rest) = rest := by
  rw [skip, takeBytes?_append]

/-- A version and three bytes of flags. -/
theorem takeVersion_append (version : UInt8) {flags : List UInt8} (h : flags.length = 3)
    (rest : List UInt8) :
    takeVersion (version :: flags ++ rest) = (some version.toNat, rest) := by
  have hversion : takeNumber? 1 (version :: flags ++ rest) =
      some (version.toNat, flags ++ rest) := by
    simp [takeNumber?, Bytes.bigEndian]
  have hflags := takeBytes?_append flags rest
  rw [h] at hflags
  rw [takeVersion, hversion]
  simp only [hflags]

/-- As many numbers as were written are read, and then those that follow. -/
theorem numbersFrom_ofNumber {width : Nat} {ns : List Nat} (h : ∀ n ∈ ns, n < 256 ^ width)
    (done : List Nat) (limit : Nat) (rest : List UInt8) :
    numbersFrom width done (ns.length + limit) (ns.flatMap (ofNumber width) ++ rest) =
      numbersFrom width (ns.reverse ++ done) limit rest := by
  induction ns generalizing done with
  | nil => simp
  | cons n ns ih =>
    rw [List.forall_mem_cons] at h
    rw [List.length_cons, Nat.add_right_comm, List.flatMap_cons, List.append_assoc, numbersFrom,
      takeNumber?_ofNumber h.1]
    simp only [ih h.2]
    simp

theorem numbers_ofNumber {width : Nat} {ns : List Nat} (h : ∀ n ∈ ns, n < 256 ^ width)
    (rest : List UInt8) :
    numbers width ns.length (ns.flatMap (ofNumber width) ++ rest) = ns := by
  have hall := numbersFrom_ofNumber h [] 0 rest
  rw [Nat.add_zero] at hall
  rw [numbers, hall, numbersFrom]
  simp

/-- Where a limit leaves room for more, what is too short for another number is passed over. -/
theorem numbers_ofNumber_append {width : Nat} {ns : List Nat} (h : ∀ n ∈ ns, n < 256 ^ width)
    {rest : List UInt8} (hrest : rest.length < width) {limit : Nat} (hlimit : ns.length ≤ limit) :
    numbers width limit (ns.flatMap (ofNumber width) ++ rest) = ns := by
  obtain ⟨more, rfl⟩ := Nat.exists_eq_add_of_le hlimit
  rw [numbers, numbersFrom_ofNumber h]
  cases more with
  | zero => simp [numbersFrom]
  | succ more => simp [numbersFrom, takeNumber?_eq_none hrest]

theorem length_flatMap_ofNumber (width : Nat) (ns : List Nat) :
    (ns.flatMap (ofNumber width)).length = width * ns.length := by
  simp [List.length_flatMap, Nat.mul_comm]

theorem length_rowBytes (row : List Nat) : (rowBytes row).length = 4 * row.length :=
  length_flatMap_ofNumber 4 row

theorem rowsFrom_rowBytes {columns : Nat} {table : List (List Nat)}
    (h : ∀ row ∈ table, IsRow columns row) (done : List (List Nat)) (rest : List UInt8) :
    rowsFrom columns done table.length (table.flatMap rowBytes ++ rest) =
      done.reverse ++ table := by
  induction table generalizing done with
  | nil => simp [rowsFrom]
  | cons row table ih =>
    rw [List.forall_mem_cons] at h
    obtain ⟨rfl, hrow⟩ := h.1
    have htake := takeBytes?_append (rowBytes row) (table.flatMap rowBytes ++ rest)
    rw [length_rowBytes] at htake
    have hnumbers : numbersFrom 4 [] row.length (rowBytes row) = row := by
      simpa [rowBytes, numbers] using numbers_ofNumber hrow []
    rw [List.length_cons, List.flatMap_cons, List.append_assoc, rowsFrom, htake]
    simp only [ih h.2, hnumbers]
    simp

/-- A table is read back row by row. -/
theorem rows_rowBytes {columns : Nat} {table : List (List Nat)}
    (h : ∀ row ∈ table, IsRow columns row) (rest : List UInt8) :
    rows columns table.length (table.flatMap rowBytes ++ rest) = table :=
  rowsFrom_rowBytes h [] rest

theorem length_flatMap_rowBytes {columns : Nat} {table : List (List Nat)}
    (h : ∀ row ∈ table, IsRow columns row) :
    (table.flatMap rowBytes).length = 4 * columns * table.length := by
  induction table with
  | nil => rfl
  | cons row table ih =>
    rw [List.forall_mem_cons] at h
    rw [List.flatMap_cons, List.length_append, ih h.2, length_rowBytes, h.1.1, List.length_cons]
    ring

/-! ## Fields in front of more bytes -/

section Extend

variable {bs rest : List UInt8} (more : List UInt8)

theorem takeBytes?_extend {count : Nat} {head : List UInt8}
    (h : takeBytes? count bs = some (head, rest)) :
    takeBytes? count (bs ++ more) = some (head, rest ++ more) := by
  rw [Bytes.takeBytes?_eq] at h
  split at h
  · next hle =>
    cases h
    have hle' : count ≤ (bs ++ more).length := by
      rw [List.length_append]
      omega
    rw [Bytes.takeBytes?_eq, if_pos hle', List.take_append_of_le_length hle,
      List.drop_append_of_le_length hle]
  · cases h

theorem takeNumber?_extend {width n : Nat} (h : takeNumber? width bs = some (n, rest)) :
    takeNumber? width (bs ++ more) = some (n, rest ++ more) := by
  obtain ⟨⟨head, rest⟩, hbytes, heq⟩ := Option.map_eq_some_iff.1 h
  cases heq
  rw [takeNumber?, takeBytes?_extend more hbytes, Option.map_some]

theorem skip_extend {count : Nat} (h : count ≤ bs.length) :
    skip count (bs ++ more) = skip count bs ++ more := by
  have htake : takeBytes? count bs = some (bs.take count, bs.drop count) := by simp [h]
  rw [skip, skip, takeBytes?_extend more htake, htake]

theorem skip_of_short {count : Nat} (h : bs.length < count) : skip count bs = bs := by
  have htake : takeBytes? count bs = none := by simp [h]
  rw [skip, htake]

theorem takeVersion_extend {version : Nat} (h : takeVersion bs = (some version, rest)) :
    takeVersion (bs ++ more) = (some version, rest ++ more) := by
  unfold takeVersion at h ⊢
  split at h
  · cases h
  · next hversion =>
    split at h
    · next hflags =>
      cases h
      simp only [takeNumber?_extend more hversion, takeBytes?_extend more hflags]
    · cases h

end Extend

/-! ## Numbers that were read -/

theorem takeNumber?_lt {width n : Nat} {bs rest : List UInt8}
    (h : takeNumber? width bs = some (n, rest)) : n < 256 ^ width := by
  rw [takeNumber?, Bytes.takeBytes?_eq] at h
  split at h
  · next hle =>
    cases h
    have hlt := Bytes.bigEndian_lt (bs.take width)
    rwa [List.length_take_of_le hle] at hlt
  · cases h

theorem takeNumber_lt (width : Nat) (bs : List UInt8) : (takeNumber width bs).1 < 256 ^ width := by
  rw [takeNumber]
  cases h : takeNumber? width bs with
  | none => exact Nat.pow_pos (by decide)
  | some found => exact takeNumber?_lt h

theorem numbersFrom_bounds {width : Nat} {done : List Nat} (hdone : ∀ n ∈ done, n < 256 ^ width)
    (limit : Nat) (bs : List UInt8) :
    (∀ n ∈ numbersFrom width done limit bs, n < 256 ^ width) ∧
    (numbersFrom width done limit bs).length ≤ done.length + limit := by
  induction limit generalizing done bs with
  | zero => simpa [numbersFrom] using hdone
  | succ limit ih =>
    rw [numbersFrom]
    split
    · next n rest hn =>
      have hlt := takeNumber?_lt hn
      obtain ⟨hall, hle⟩ := ih (List.forall_mem_cons.2 ⟨hlt, hdone⟩) rest
      rw [List.length_cons] at hle
      exact ⟨hall, by omega⟩
    · simpa using hdone

/-- Numbers in a payload are bounded by their width, and there are no more than the limit. -/
theorem numbers_bounds (width limit : Nat) (bs : List UInt8) :
    (∀ n ∈ numbers width limit bs, n < 256 ^ width) ∧ (numbers width limit bs).length ≤ limit := by
  have h := numbersFrom_bounds (List.forall_mem_nil (· < 256 ^ width)) limit bs
  rwa [List.length_nil, Nat.zero_add] at h

theorem rowsFrom_lt {columns : Nat} {done : List (List Nat)}
    (hdone : ∀ row ∈ done, ∀ n ∈ row, n < 256 ^ 4) (limit : Nat) (bs : List UInt8) :
    ∀ row ∈ rowsFrom columns done limit bs, ∀ n ∈ row, n < 256 ^ 4 := by
  induction limit generalizing done bs with
  | zero => simpa [rowsFrom] using hdone
  | succ limit ih =>
    rw [rowsFrom]
    split
    · next head rest _ =>
      have hrow : ∀ n ∈ numbers 4 columns head, n < 256 ^ 4 :=
        (numbers_bounds 4 columns head).1
      exact ih (List.forall_mem_cons.2 ⟨hrow, hdone⟩) rest
    · simpa using hdone

theorem rows_lt (columns limit : Nat) (bs : List UInt8) :
    ∀ row ∈ rows columns limit bs, ∀ n ∈ row, n < 256 ^ 4 :=
  rowsFrom_lt (by simp) limit bs

end MediaTags.IsoMedia
