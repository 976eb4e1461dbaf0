-- Where the text of a value ends. Brackets are counted outside of strings, so the text of a value
-- can be cut off whatever follows, and two objects of one text have members of the same texts.
import Mathlib.Tactic.SplitIfs
import Workspaces.Json.Text

namespace Workspaces.Json

/-! ## Cutting a value off -/

/-- Whether the scan of a text stands outside of strings, within one, or behind a backslash. -/
inductive Mode where
  | plain
  | quoted
  | escaped

/-- What a text begins with up to the first comma, colon or closing bracket that belongs to nothing
begun in it; `depth` brackets are open. -/
def extent : Mode → (depth : Nat) → List Char → List Char
  | _, _, [] => []
  | .escaped, depth, c :: cs => c :: extent .quoted depth cs
  | .quoted, depth, c :: cs =>
    if c = '\\' then c :: extent .escaped depth cs
    else if c = '"' then c :: extent .plain depth cs
    else c :: extent .quoted depth cs
  | .plain, depth, c :: cs =>
    if c = '"' then c :: extent .quoted depth cs
    else if c = '[' ∨ c = '\x7b' then c :: extent .plain (depth + 1) cs
    else if c = ']' ∨ c = '\x7d' then
      match depth with
      | 0 => []
      | depth + 1 => c :: extent .plain depth cs
    else if depth = 0 ∧ (c = ',' ∨ c = ':') then []
    else c :: extent .plain depth cs

/-- The characters outside of strings that neither open nor close anything nor part it. -/
def isInert (c : Char) : Bool :=
  c ≠ '"' && c ≠ '[' && c ≠ ']' && c ≠ '\x7b' && c ≠ '\x7d' && c ≠ ',' && c ≠ ':'

def Inert (cs : List Char) : Prop := ∀ c ∈ cs, isInert c = true

instance (cs : List Char) : Decidable (Inert cs) :=
  decidable_of_iff (cs.all isInert = true) List.all_eq_true

theorem extent_inert (depth : Nat) (cs rest : List Char) (h : Inert cs) :
    extent .plain depth (cs ++ rest) = cs ++ extent .plain depth rest := by
  induction cs with
  | nil => rfl
  | cons c cs ih =>
    have hc : isInert c = true := h c List.mem_cons_self
    have hcs := ih fun d hd => h d (List.mem_cons_of_mem c hd)
    simp only [isInert, Bool.and_eq_true, decide_eq_true_eq, ne_eq] at hc
    rw [List.cons_append, List.cons_append, ← hcs]
    simp [extent, hc]

/-! ## Strings -/

/-- Characters of a string that are neither quotes nor backslashes are passed over. -/
theorem extent_others (depth : Nat) (cs rest : List Char) (h : ∀ c ∈ cs, c ≠ '\\' ∧ c ≠ '"') :
    extent .quoted depth (cs ++ rest) = cs ++ extent .quoted depth rest := by
  induction cs with
  | nil => rfl
  | cons c cs ih =>
    obtain ⟨hslash, hquote⟩ := h c List.mem_cons_self
    have hcs := ih fun d hd => h d (List.mem_cons_of_mem c hd)
    rw [List.cons_append, List.cons_append, ← hcs, extent, if_neg hslash, if_neg hquote]

theorem hexChar_ne (n : Nat) : hexChar n ≠ '\\' ∧ hexChar n ≠ '"' :=
  ⟨Nat.digitChar_ne _ (by decide), Nat.digitChar_ne _ (by decide)⟩

/-- A character stands for itself, or is written with one backslash in front. -/
theorem escaped_cases (c : Char) :
    (escaped c = [c] ∧ c ≠ '\\' ∧ c ≠ '"') ∨
      ∃ d cs, escaped c = '\\' :: d :: cs ∧ ∀ e ∈ cs, e ≠ '\\' ∧ e ≠ '"' := by
  have hnone : ∀ e ∈ ([] : List Char), e ≠ '\\' ∧ e ≠ '"' := by simp
  unfold escaped
  split
  · exact .inr ⟨_, _, rfl, hnone⟩
  · split
    · exact .inr ⟨_, _, rfl, hnone⟩
    · split
      · rename_i hquote hslash _
        exact .inl ⟨rfl, hslash, hquote⟩
      · refine .inr ?_
        split_ifs
        · exact ⟨_, _, rfl, hnone⟩
        · exact ⟨_, _, rfl, hnone⟩
        · exact ⟨_, _, rfl, hnone⟩
        · exact ⟨_, _, rfl, hnone⟩
        · exact ⟨_, _, rfl, hnone⟩
        · refine ⟨_, _, rfl, ?_⟩
          simp [hexChar_ne]

theorem extent_escaped (depth : Nat) (c : Char) (rest : List Char) :
    extent .quoted depth (escaped c ++ rest) = escaped c ++ extent .quoted depth rest := by
  rcases escaped_cases c with ⟨hself, hother⟩ | ⟨d, cs, hpair, hothers⟩
  · rw [hself]
    exact extent_others depth [c] rest (by simpa using hother)
  · rw [hpair, List.cons_append, List.cons_append, List.cons_append, List.cons_append,
      ← extent_others depth cs rest hothers]
    rfl

theorem extent_characters (depth : Nat) (cs rest : List Char) :
    extent .quoted depth (cs.flatMap escaped ++ rest) =
      cs.flatMap escaped ++ extent .quoted depth rest := by
  induction cs with
  | nil => rfl
  | cons c cs ih =>
    rw [List.flatMap_cons, List.append_assoc, extent_escaped, ih, List.append_assoc]

theorem extent_quoted (depth : Nat) (s : String) (rest : List Char) :
    extent .plain depth (quoted s ++ rest) = quoted s ++ extent .plain depth rest := by
  unfold quoted
  rw [List.cons_append, List.append_assoc]
  simp [extent, extent_characters]

/-! ## Numbers -/

namespace Inert

variable {cs ds : List Char}

theorem append (hcs : Inert cs) (hds : Inert ds) : Inert (cs ++ ds) :=
  List.forall_mem_append.2 ⟨hcs, hds⟩

theorem cons {c : Char} (hc : isInert c = true) (hcs : Inert cs) : Inert (c :: cs) :=
  List.forall_mem_cons.2 ⟨hc, hcs⟩

theorem take (hcs : Inert cs) (n : Nat) : Inert (cs.take n) :=
  fun c hc => hcs c (List.mem_of_mem_take hc)

theorem drop (hcs : Inert cs) (n : Nat) : Inert (cs.drop n) :=
  fun c hc => hcs c (List.mem_of_mem_drop hc)

theorem zeros (n : Nat) : Inert (List.replicate n '0') := by
  intro c hc
  rw [(List.mem_replicate.1 hc).2]
  rfl

theorem digits (n : Nat) : Inert (Nat.toDigits 10 n) := by
  intro c hc
  have hdigit : c.isDigit = true := Nat.isDigit_of_mem_toDigits (by decide) (by decide) hc
  simp only [isInert, Bool.and_eq_true, decide_eq_true_eq, and_assoc]
  refine ⟨?_, ?_, ?_, ?_, ?_, ?_, ?_⟩ <;> rintro rfl <;> cases hdigit

theorem integer (n : Int) : Inert (Numeral.write n) := by
  unfold Numeral.write
  split
  · exact cons rfl (digits _)
  · exact digits _

theorem float (x : Binary64) : Inert x.write := by
  have hsign : Inert (if x.negative = true then ['-'] else []) := by
    split <;> decide
  have hdigits := digits x.shortest.digits
  unfold Binary64.write
  simp only
  split
  · exact hsign.append (by decide)
  · refine hsign.append ?_
    split
    · exact (hdigits.append (zeros _)).append (by decide)
    · split
      · exact (hdigits.take _).append (cons rfl (hdigits.drop _))
      · split
        · exact cons rfl (cons rfl ((zeros _).append hdigits))
        · refine ((hdigits.take 1).append ?_).append (cons rfl (cons ?_ (digits _)))
          · split
            · decide
            · exact cons rfl (hdigits.drop 1)
          · split <;> rfl

theorem number (n : Number) : Inert n.chars := by
  cases n with
  | integer n => exact integer n
  | float x => exact float x

end Inert

/-! ## Values -/

mutual

/-- The text of a value is scanned through, whatever follows it and however deep it stands. -/
theorem extent_chars (v : Json) (depth : Nat) (rest : List Char) :
    extent .plain depth (v.chars ++ rest) = v.chars ++ extent .plain depth rest := by
  cases v with
  | null => exact extent_inert depth _ rest (by decide)
  | bool b => cases b <;> exact extent_inert depth _ rest (by decide)
  | number n => exact extent_inert depth _ rest (.number n)
  | string s => exact extent_quoted depth s rest
  | array items =>
    cases items with
    | nil => simp [chars, extent]
    | cons v vs =>
      -- Behind its first item an array has one bracket open, which `moreItems` closes.
      simp [chars, extent, extent_chars v, extent_moreItems vs]
  | object members =>
    cases members with
    | nil => simp [chars, extent]
    | cons m ms =>
      obtain ⟨n, v⟩ := m
      simp [chars, extent, extent_quoted, extent_chars v, extent_moreMembers ms]

theorem extent_moreItems (vs : List Json) (depth : Nat) (rest : List Char) :
    extent .plain (depth + 1) (moreItems vs ++ rest) =
      moreItems vs ++ extent .plain depth rest := by
  cases vs with
  | nil => simp [moreItems, extent]
  | cons v vs => simp [moreItems, extent, extent_chars v, extent_moreItems vs]

theorem extent_moreMembers (ms : List (String × Json)) (depth : Nat) (rest : List Char) :
    extent .plain (depth + 1) (moreMembers ms ++ rest) =
      moreMembers ms ++ extent .plain depth rest := by
  cases ms with
  | nil => simp [moreMembers, extent]
  | cons m ms =>
    obtain ⟨n, v⟩ := m
    simp [moreMembers, extent, extent_quoted, extent_chars v, extent_moreMembers ms]

end

/-- Texts of values of which something else follows are the same if they and what follows are. -/
theorem chars_append_inj (v w : Json) (a b : List Char) (ha : extent .plain 0 a = [])
    (hb : extent .plain 0 b = []) (h : v.chars ++ a = w.chars ++ b) :
    v.chars = w.chars ∧ a = b := by
  have hcut := congrArg (extent .plain 0) h
  rw [extent_chars, extent_chars, ha, hb, List.append_nil, List.append_nil] at hcut
  rw [hcut] at h
  exact ⟨hcut, List.append_cancel_left h⟩

/-! ## Members -/

/-- A member as its text shows it. -/
def spelled (m : String × Json) : List Char × List Char := (quoted m.1, m.2.chars)

theorem extent_moreMembers_eq_nil (ms : List (String × Json)) :
    extent .plain 0 (moreMembers ms) = [] := by
  cases ms <;> simp [moreMembers, extent]

/-- A member and the rest of its object are told apart by their text. -/
theorem member_inj (n m : String) (v w : Json) (ns ms : List (String × Json))
    (h : quoted n ++ ':' :: (v.chars ++ moreMembers ns) =
      quoted m ++ ':' :: (w.chars ++ moreMembers ms)) :
    spelled (n, v) = spelled (m, w) ∧ moreMembers ns = moreMembers ms := by
  obtain ⟨hname, hrest⟩ := chars_append_inj (.string n) (.string m) _ _ rfl rfl h
  obtain ⟨hvalue, hmore⟩ := chars_append_inj v w _ _ (extent_moreMembers_eq_nil ns)
    (extent_moreMembers_eq_nil ms) (List.cons.inj hrest).2
  exact ⟨Prod.ext hname hvalue, hmore⟩

theorem moreMembers_inj (ns ms : List (String × Json)) (h : moreMembers ns = moreMembers ms) :
    ns.map spelled = ms.map spelled := by
  induction ns generalizing ms with
  | nil =>
    cases ms with
    | nil => rfl
    | cons m ms => simp [moreMembers] at h
  | cons n ns ih =>
    cases ms with
    | nil => simp [moreMembers] at h
    | cons m ms =>
      obtain ⟨hmember, hmore⟩ := member_inj _ _ _ _ _ _ (List.cons.inj h).2
      rw [List.map_cons, List.map_cons, ih ms hmore]
      exact congrArg (· :: _) hmember

/-- Objects of one text have members of the same texts in the same order. -/
theorem object_inj (ns ms : List (String × Json)) (h : (object ns).chars = (object ms).chars) :
    ns.map spelled = ms.map spelled := by
  cases ns with
  | nil =>
    cases ms with
    | nil => rfl
    | cons m ms => simp [chars, quoted] at h
  | cons n ns =>
    cases ms with
    | nil => simp [chars, quoted] at h
    | cons m ms =>
      obtain ⟨hmember, hmore⟩ := member_inj _ _ _ _ _ _ (List.cons.inj h).2
      rw [List.map_cons, List.map_cons, moreMembers_inj ns ms hmore]
      exact congrArg (· :: _) hmember

end Workspaces.Json
