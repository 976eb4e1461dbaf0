-- The grammar of JSON: which octets are a value, and which are the entries between two brackets,
-- whatever may be read from them.
import Workspaces.Json.Skip

namespace Workspaces.Json

/-! ## Leaves -/

def IsBlanks (t : Octets) : Prop := ∀ b ∈ t, isBlank b = true

/-- Digits, one at least. -/
def IsDigits (t : Octets) : Prop := t ≠ [] ∧ ∀ b ∈ t, isDigit b = true

/-- What stands between the quotes of a string. -/
inductive IsCharacters : Octets → Prop
  | nil : IsCharacters []
  | plain {b : UInt8} {t : Octets} (printable : ¬ b < 0x20) (quote : Octets.char b ≠ '"')
      (backslash : Octets.char b ≠ '\\') (more : IsCharacters t) : IsCharacters (b :: t)
  | letter {b : UInt8} {t : Octets} (escape : (letterEscape? (Octets.char b)).isSome = true)
      (more : IsCharacters t) : IsCharacters (0x5C :: b :: t)
  | code {a b c d : UInt8} {t : Octets}
      (digits : ∀ e ∈ [a, b, c, d], (Octets.hexDigit? e).isSome = true) (more : IsCharacters t) :
      IsCharacters (0x5C :: 0x75 :: a :: b :: c :: d :: t)

inductive IsString : Octets → Prop
  | quoted {t : Octets} (characters : IsCharacters t) : IsString (0x22 :: (t ++ [0x22]))

/-- Without an escape a text stands between the quotes as it is. -/
theorem IsString.of_plain (t : Octets)
    (h : ∀ b ∈ t, ¬ b < 0x20 ∧ Octets.char b ≠ '"' ∧ Octets.char b ≠ '\\') :
    IsString (0x22 :: (t ++ [0x22])) := by
  refine .quoted ?_
  induction t with
  | nil => exact .nil
  | cons b t ih =>
    obtain ⟨⟨printable, quote, backslash⟩, ht⟩ := List.forall_mem_cons.1 h
    exact .plain printable quote backslash (ih ht)

/-- The part of a number in front of its point: no zero stands in front of other digits. -/
inductive IsWhole : Octets → Prop
  | zero : IsWhole [0x30]
  | digits {b : UInt8} {t : Octets} (first : isDigit b = true) (nonzero : b ≠ 0x30)
      (more : ∀ d ∈ t, isDigit d = true) : IsWhole (b :: t)

inductive IsFraction : Octets → Prop
  | none : IsFraction []
  | digits {t : Octets} (digits : IsDigits t) : IsFraction (0x2E :: t)

inductive IsSign : Octets → Prop
  | none : IsSign []
  | plus : IsSign [0x2B]
  | minus : IsSign [0x2D]

inductive IsExponent : Octets → Prop
  | none : IsExponent []
  | digits {e : UInt8} {s t : Octets} (letter : Octets.char e = 'e' ∨ Octets.char e = 'E')
      (sign : IsSign s) (digits : IsDigits t) : IsExponent (e :: (s ++ t))

/-- A number without a sign. -/
inductive IsUnsigned : Octets → Prop
  | parts {t u v : Octets} (whole : IsWhole t) (fraction : IsFraction u)
      (exponent : IsExponent v) : IsUnsigned (t ++ (u ++ v))

inductive IsNumber : Octets → Prop
  | plain {t : Octets} (unsigned : IsUnsigned t) : IsNumber t
  | minus {t : Octets} (unsigned : IsUnsigned t) : IsNumber (0x2D :: t)

/-! ## Values -/

namespace Bracket

def opening : Bracket → UInt8
  | list => 0x5B
  | object => 0x7B

def closing : Bracket → UInt8
  | list => 0x5D
  | object => 0x7D

end Bracket

/-- What stands in front of the value of an entry: in an object its name, blanks and a colon. -/
inductive IsLabel : Bracket → (name : Octets) → Octets → Prop
  | item : IsLabel .list [] []
  | member {name t : Octets} (string : IsString name) (blanks : IsBlanks t) :
      IsLabel .object name (name ++ (t ++ [0x3A]))

/-- The texts of an entry: that of its name, which no item of a list has, and that of its value. -/
structure Entry where
  name : Octets
  value : Octets

/-- A part of a text: a value, an entry of a bracket, all that stands between a bracket and the
closing one, or what is left of that behind an entry. -/
inductive Part where
  | value
  | entry (bracket : Bracket) (e : Entry)
  | inside (bracket : Bracket) (es : List Entry)
  | more (bracket : Bracket) (es : List Entry)

inductive Spells : Part → Octets → Prop
  | null : Spells .value [0x6E, 0x75, 0x6C, 0x6C]
  | truth : Spells .value [0x74, 0x72, 0x75, 0x65]
  | falsehood : Spells .value [0x66, 0x61, 0x6C, 0x73, 0x65]
  | number {t : Octets} (number : IsNumber t) : Spells .value t
  | string {t : Octets} (string : IsString t) : Spells .value t
  | bracket {bracket : Bracket} {es : List Entry} {t : Octets}
      (inside : Spells (.inside bracket es) t) :
      Spells .value (bracket.opening :: (t ++ [bracket.closing]))
  | entry {bracket : Bracket} {name value t u v : Octets} (before : IsBlanks t)
      (label : IsLabel bracket name u) (behind : IsBlanks v) (spelled : Spells .value value) :
      Spells (.entry bracket ⟨name, value⟩) (t ++ (u ++ (v ++ value)))
  | blank {bracket : Bracket} {t : Octets} (blanks : IsBlanks t) : Spells (.inside bracket []) t
  | first {bracket : Bracket} {e : Entry} {es : List Entry} {t u : Octets}
      (entry : Spells (.entry bracket e) t) (more : Spells (.more bracket es) u) :
      Spells (.inside bracket (e :: es)) (t ++ u)
  | last {bracket : Bracket} {t : Octets} (blanks : IsBlanks t) : Spells (.more bracket []) t
  | next {bracket : Bracket} {e : Entry} {es : List Entry} {t u v : Octets} (blanks : IsBlanks t)
      (entry : Spells (.entry bracket e) u) (more : Spells (.more bracket es) v) :
      Spells (.more bracket (e :: es)) (t ++ 0x2C :: (u ++ v))

/-- The whole text is an object with the members. -/
inductive IsObject (ms : List Entry) : Octets → Prop
  | braces {t u v : Octets} (before : IsBlanks t) (inside : Spells (.inside .object ms) u)
      (behind : IsBlanks v) : IsObject ms (t ++ 0x7B :: (u ++ 0x7D :: v))

/-- What stands in front of an entry: nothing, or behind another one blanks and a comma. -/
inductive Leads : (later : Bool) → Octets → Prop
  | first : Leads false []
  | comma {t : Octets} (blanks : IsBlanks t) : Leads true (t ++ [0x2C])

/-! ## Octets -/

def digitOctets : Octets := [0x30, 0x31, 0x32, 0x33, 0x34, 0x35, 0x36, 0x37, 0x38, 0x39]

theorem mem_digitOctets {b : UInt8} (h : isDigit b = true) : b ∈ digitOctets := by
  have hall : ∀ n : Fin 256, isDigit (UInt8.ofFin n) = true → UInt8.ofFin n ∈ digitOctets := by
    decide +kernel
  exact hall b.toFin h

theorem skipBlanks_append {t : Octets} (h : IsBlanks t) (u : Octets) :
    skipBlanks (t ++ u) = skipBlanks u :=
  List.dropWhile_append_of_pos h

theorem skipBlanks_cons {b : UInt8} (h : isBlank b = false) (t : Octets) :
    skipBlanks (b :: t) = b :: t := by
  unfold skipBlanks
  rw [List.dropWhile_cons_of_neg (by simp [h])]

theorem isBlank_of_skipBlanks {b : UInt8} {t u : Octets} (h : skipBlanks t = b :: u) :
    isBlank b = false := by
  have hhead := List.head?_dropWhile_not isBlank t
  change t.dropWhile isBlank = b :: u at h
  rwa [h] at hhead

/-- An octet with which a value begins: it is no blank and does not end a list. -/
def Starts (b : UInt8) : Prop := isBlank b = false ∧ Octets.char b ≠ ']'

instance (b : UInt8) : Decidable (Starts b) := inferInstanceAs (Decidable (_ ∧ _))

theorem starts_of_isDigit {b : UInt8} (h : isDigit b = true) : Starts b := by
  have hall : ∀ b ∈ digitOctets, Starts b := by decide +kernel
  exact hall b (mem_digitOctets h)

theorem no_sign_of_isDigit {b : UInt8} (h : isDigit b = true) :
    Octets.char b ≠ '+' ∧ Octets.char b ≠ '-' := by
  have hall : ∀ b ∈ digitOctets, Octets.char b ≠ '+' ∧ Octets.char b ≠ '-' := by decide +kernel
  exact hall b (mem_digitOctets h)

theorem digit?_of_nonzero {b : UInt8} (h : isDigit b = true) (hzero : b ≠ 0x30) :
    ∃ n, Octets.digit? b = some (n + 1) := by
  have hall : ∀ b ∈ digitOctets, b ≠ 0x30 →
      Octets.digit? b = some ((Octets.digit? b).getD 0 - 1 + 1) := by
    decide +kernel
  exact ⟨_, hall b (mem_digitOctets h) hzero⟩

theorem IsDigits.cons {t : Octets} (h : IsDigits t) :
    ∃ b u, t = b :: u ∧ isDigit b = true ∧ ∀ d ∈ u, isDigit d = true := by
  obtain ⟨hne, hall⟩ := h
  obtain ⟨b, u, rfl⟩ := List.exists_cons_of_ne_nil hne
  exact ⟨b, u, rfl, List.forall_mem_cons.1 hall⟩

theorem skipDigits_append {t u : Octets} (h : ∀ d ∈ t, isDigit d = true)
    (hu : startsWithDigit u = false) : skipDigits (t ++ u) = u := by
  unfold skipDigits
  rw [List.dropWhile_append_of_pos h]
  cases u with
  | nil => rfl
  | cons b u => exact List.dropWhile_cons_of_neg (by simpa [startsWithDigit] using hu)

/-- Four hexadecimal digits have a value. -/
theorem takeHex4_of_digits {a b c d : UInt8}
    (h : ∀ e ∈ [a, b, c, d], (Octets.hexDigit? e).isSome = true) :
    ∃ n, ∀ t, takeHex4 (a :: b :: c :: d :: t) = .ok (n, t) := by
  simp only [List.forall_mem_cons, Option.isSome_iff_exists] at h
  obtain ⟨⟨w, ha⟩, ⟨x, hb⟩, ⟨y, hc⟩, ⟨z, hd⟩, _⟩ := h
  refine ⟨((w * 16 + x) * 16 + y) * 16 + z, fun t => ?_⟩
  simp [takeHex4, ha, hb, hc, hd]

theorem IsUnsigned.starts {t : Octets} (h : IsUnsigned t) :
    ∃ b u, t = b :: u ∧ isDigit b = true := by
  obtain ⟨whole, _, _⟩ := h
  cases whole with
  | zero => exact ⟨_, _, rfl, by decide⟩
  | digits first _ _ => exact ⟨_, _, rfl, first⟩

theorem Spells.starts {t : Octets} (h : Spells .value t) : ∃ b u, t = b :: u ∧ Starts b := by
  cases h with
  | null | truth | falsehood => exact ⟨_, _, rfl, by decide⟩
  | number number =>
    cases number with
    | plain unsigned =>
      obtain ⟨b, u, rfl, hdigit⟩ := unsigned.starts
      exact ⟨b, u, rfl, starts_of_isDigit hdigit⟩
    | minus _ => exact ⟨_, _, rfl, by decide⟩
  | string string =>
    cases string
    exact ⟨_, _, rfl, by decide⟩
  | @bracket bracket =>
    refine ⟨bracket.opening, _, rfl, ?_⟩
    cases bracket <;> decide

theorem Spells.value_of_entry {bracket : Bracket} {e : Entry} {t : Octets}
    (h : Spells (.entry bracket e) t) : Spells .value e.value := by
  cases h with
  | entry _ _ _ spelled => exact spelled

theorem Spells.length_pos {bracket : Bracket} {e : Entry} {t : Octets}
    (h : Spells (.entry bracket e) t) : 0 < t.length := by
  cases h with
  | entry _ _ _ spelled =>
    obtain ⟨_, _, hvalue, _⟩ := spelled.starts
    rw [hvalue]
    simp only [List.length_append, List.length_cons]
    omega

/-! ## Ends -/

/-- The blanks, the comma and the closing brackets. -/
def endOctets : Octets := [0x20, 0x0A, 0x09, 0x0D, 0x2C, 0x5D, 0x7D]

/-- What may stand behind a value: nothing, or a blank, a comma or a closing bracket. -/
def Ends (t : Octets) : Prop := ∀ b ∈ t.head?, b ∈ endOctets

theorem ends_nil : Ends [] := by simp [Ends]

theorem ends_cons {b : UInt8} (h : b ∈ endOctets) (t : Octets) : Ends (b :: t) := by
  simpa [Ends] using h

theorem mem_endOctets_of_isBlank {b : UInt8} (h : isBlank b = true) : b ∈ endOctets := by
  unfold isBlank at h
  simp only [Bool.or_eq_true, decide_eq_true_eq] at h
  rcases h with ((rfl | rfl) | rfl) | rfl <;> decide

theorem ends_append {t u : Octets} (h : IsBlanks t) (hu : Ends u) : Ends (t ++ u) := by
  cases t with
  | nil => exact hu
  | cons b t => exact ends_cons (mem_endOctets_of_isBlank (h b List.mem_cons_self)) _

theorem Spells.ends {bracket : Bracket} {es : List Entry} {t : Octets}
    (h : Spells (.more bracket es) t) (rest : Octets) : Ends (t ++ bracket.closing :: rest) := by
  have hclose : bracket.closing ∈ endOctets := by cases bracket <;> decide
  cases h with
  | last blanks => exact ends_append blanks (ends_cons hclose rest)
  | next blanks =>
    rw [List.append_assoc]
    exact ends_append blanks (ends_cons (by decide) _)

/-- What ends a value goes on with no number. -/
theorem Ends.head {b : UInt8} {t : Octets} (h : Ends (b :: t)) :
    isDigit b = false ∧ Octets.char b ≠ '.' ∧ Octets.char b ≠ 'e' ∧ Octets.char b ≠ 'E' := by
  have hall : ∀ b ∈ endOctets,
      isDigit b = false ∧ Octets.char b ≠ '.' ∧ Octets.char b ≠ 'e' ∧ Octets.char b ≠ 'E' := by
    decide +kernel
  exact hall b (h b rfl)

theorem Ends.startsWithDigit {t : Octets} (h : Ends t) : startsWithDigit t = false := by
  cases t with
  | nil => rfl
  | cons b t => exact h.head.1

/-- What stands in a number behind its digits does not begin with one, and behind the places of a
fraction with no point either. -/
theorem IsExponent.head {t rest : Octets} (h : IsExponent t) (hrest : Ends rest) :
    ∀ b ∈ (t ++ rest).head?, isDigit b = false ∧ Octets.char b ≠ '.' := by
  cases h with
  | none =>
    cases rest with
    | nil => simp
    | cons b rest =>
      obtain ⟨hdigit, hpoint, _⟩ := hrest.head
      simpa using ⟨hdigit, hpoint⟩
  | @digits e _ _ letter _ _ =>
    have hdigit : isDigit e = false := by
      have hall : ∀ b ∈ digitOctets, ¬ (Octets.char b = 'e' ∨ Octets.char b = 'E') := by
        decide +kernel
      cases hdigit : isDigit e with
      | false => rfl
      | true => exact absurd letter (hall e (mem_digitOctets hdigit))
    have hpoint : Octets.char e ≠ '.' := by
      rcases letter with letter | letter <;> simp [letter]
    simpa using ⟨hdigit, hpoint⟩

theorem IsExponent.startsWithDigit {t rest : Octets} (h : IsExponent t) (hrest : Ends rest) :
    startsWithDigit (t ++ rest) = false := by
  have hhead := h.head hrest
  generalize t ++ rest = u at hhead
  cases u with
  | nil => rfl
  | cons b u => exact (hhead b rfl).1

theorem IsFraction.startsWithDigit {t u rest : Octets} (h : IsFraction t) (hu : IsExponent u)
    (hrest : Ends rest) : Json.startsWithDigit (t ++ (u ++ rest)) = false := by
  cases h with
  | none => exact hu.startsWithDigit hrest
  | digits _ => rfl

end Workspaces.Json
