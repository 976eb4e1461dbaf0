-- What is read from a value of the grammar: all of it and nothing of what stands behind it, and
-- the same whatever that is.
import Workspaces.Json.Read
import Workspaces.Proofs.Json.Leaves

namespace Workspaces.Json

/-! ## Items -/

theorem nextItem_entry {later : Bool} {lead t : Octets} {e : Entry} (hlead : Leads later lead)
    (h : Spells (.entry .list e) t) (rest : Octets) :
    nextItem later (lead ++ (t ++ rest)) = .ok (some (e.value ++ rest)) := by
  cases h with
  | @entry _ _ value t u v before label behind spelled =>
    cases label
    obtain ⟨b, w, rfl, hblank, hclose⟩ := spelled.starts
    have hopens : skipBlanks (t ++ ([] ++ (v ++ b :: w)) ++ rest) = b :: w ++ rest := by
      simp only [List.append_assoc, List.nil_append]
      rw [skipBlanks_append before, skipBlanks_append behind, List.cons_append,
        skipBlanks_cons hblank]
    cases hlead with
    | first =>
      rw [List.nil_append, nextItem, hopens]
      simp [hclose]
    | comma blanks =>
      rw [List.append_assoc, nextItem, skipBlanks_append blanks, List.singleton_append,
        skipBlanks_cons (by decide)]
      simp only [hopens]
      rw [if_neg (by decide), if_neg (by decide), if_pos (by decide)]
      simp [hclose]

theorem nextItem_end (later : Bool) {t : Octets} (ht : IsBlanks t) (rest : Octets) :
    nextItem later (t ++ 0x5D :: rest) = .ok none := by
  rw [nextItem, skipBlanks_append ht, skipBlanks_cons (by decide)]
  exact if_pos (by decide)

theorem takeListEnd_append {t : Octets} (ht : IsBlanks t) (rest : Octets) :
    takeListEnd (t ++ 0x5D :: rest) = .ok rest := by
  rw [takeListEnd, skipBlanks_append ht, skipBlanks_cons (by decide)]
  exact if_pos (by decide)

section Items

variable {α : Type} (item : Reader α) (done : List α)

theorem takeItems_end {t : Octets} (ht : IsBlanks t) :
    Closed (fun turns => takeItems item turns done) 0x5D t := by
  refine .of_end done.reverse fun b turns rest => ?_
  rw [takeItems, nextItem_end _ ht, takeListEnd_append ht]
  rfl

/-- An item is taken, and then what is left of the list. -/
theorem takeItems_entry {lead t u : Octets} {e : Entry} (hlead : Leads (!done.isEmpty) lead)
    (h : Spells (.entry .list e) t) (hitem : Settled item e.value)
    (hends : ∀ rest, Ends (u ++ 0x5D :: rest))
    (hmore : ∀ x, Closed (fun turns => takeItems item turns (x :: done)) 0x5D u) :
    Closed (fun turns => takeItems item turns done) 0x5D (lead ++ (t ++ u)) := by
  have hnext : ∀ rest, nextItem (!done.isEmpty) (lead ++ (t ++ u) ++ 0x5D :: rest) =
      .ok (some (e.value ++ (u ++ 0x5D :: rest))) := by
    intro rest
    rw [List.append_assoc, List.append_assoc, nextItem_entry hlead h]
  obtain ⟨x?, hx⟩ := hitem
  cases x? with
  | none =>
    refine .of_error fun b turns rest => ?_
    obtain ⟨stop, hstop⟩ := error_of_toOption (hx _ (hends rest))
    refine ⟨stop, ?_⟩
    rw [takeItems, hnext]
    simp only [hstop]
  | some x =>
    have hpos := h.length_pos
    refine (hmore x).of_turn (by simp; omega) fun b turns rest => ?_
    rw [takeItems, hnext]
    simp only [ok_of_toOption (hx _ (hends rest))]

end Items

/-! ## Members -/

theorem takeValue_string (depth : Nat) (t : Octets) : takeValue (depth + 1) (0x22 :: t) =
    (takeString t).map fun (s, rest) => (.string s, rest) := rfl

/-- What a string tells, if it tells a text, does not depend on what follows it. -/
theorem IsString.text {t : Octets} (h : IsString t) :
    ∃ s? : Option String, (ofOctets t).toOption = s?.map Json.string ∧
      ∀ rest, ∃ u, t ++ rest = 0x22 :: u ∧ (takeString u).toOption = s?.map fun s => (s, rest) := by
  obtain ⟨characters⟩ := h
  obtain ⟨s?, hs⟩ := takeString_append characters
  refine ⟨s?, ?_, fun rest => ⟨_, by simp, hs rest⟩⟩
  unfold ofOctets readWhole
  rw [depthLimit, takeValue_string]
  cases s? with
  | none =>
    obtain ⟨stop, hstop⟩ := error_of_toOption (hs [])
    rw [hstop]
    rfl
  | some s =>
    rw [ok_of_toOption (hs [])]
    rfl

/-- A member is named by what its name tells, and behind the name stands its value. -/
theorem nextName_entry {later : Bool} {lead t : Octets} {e : Entry} (hlead : Leads later lead)
    (h : Spells (.entry .object e) t) :
    ∃ (s? : Option String) (blanks : Octets), IsBlanks blanks ∧
      (ofOctets e.name).toOption = s?.map Json.string ∧
      ∀ rest, ∃ u, takeColon u = .ok (blanks ++ (e.value ++ rest)) ∧
        (nextName later (lead ++ (t ++ rest))).toOption = s?.map fun s => some (s, u) := by
  cases h with
  | @entry _ name value t u v before label behind spelled =>
    cases label with
    | @member _ w string blanks =>
      obtain ⟨s?, hname, htake⟩ := string.text
      refine ⟨s?, v, behind, hname, fun rest => ?_⟩
      obtain ⟨y, hy, hs⟩ := htake (w ++ 0x3A :: (v ++ (value ++ rest)))
      refine ⟨w ++ 0x3A :: (v ++ (value ++ rest)), ?_, ?_⟩
      · rw [takeColon, skipBlanks_append blanks, skipBlanks_cons (by decide)]
        rfl
      · have hopens : skipBlanks (t ++ (name ++ (w ++ [0x3A]) ++ (v ++ value)) ++ rest) =
            0x22 :: y := by
          rw [List.append_assoc, skipBlanks_append before]
          simp only [List.append_assoc, List.cons_append, List.nil_append]
          rw [hy, skipBlanks_cons (by decide)]
        cases hlead with
        | first =>
          rw [List.nil_append, nextName, hopens]
          simp only [Bool.false_eq_true, if_false]
          rw [if_neg (by decide), if_pos (by decide), toOption_map, hs]
          cases s? <;> rfl
        | comma comma =>
          rw [List.append_assoc, nextName, skipBlanks_append comma, List.singleton_append,
            skipBlanks_cons (by decide)]
          simp only [hopens, if_true]
          rw [if_neg (by decide), if_pos (by decide), if_pos (by decide), toOption_map, hs]
          cases s? <;> rfl

theorem nextName_end (later : Bool) {t : Octets} (ht : IsBlanks t) (rest : Octets) :
    nextName later (t ++ 0x7D :: rest) = .ok none := by
  rw [nextName, skipBlanks_append ht, skipBlanks_cons (by decide)]
  exact if_pos (by decide)

theorem takeObjectEnd_append {t : Octets} (ht : IsBlanks t) (rest : Octets) :
    takeObjectEnd (t ++ 0x7D :: rest) = .ok rest := by
  rw [takeObjectEnd, skipBlanks_append ht, skipBlanks_cons (by decide)]
  exact if_pos (by decide)

section Members

variable (value : Reader Json) (later : Bool) (done : List (String × Json))

theorem takeMembers_end {t : Octets} (ht : IsBlanks t) :
    Closed (fun turns => takeMembers value turns later done) 0x7D t := by
  refine .of_end done fun b turns rest => ?_
  rw [takeMembers, nextName_end later ht, takeObjectEnd_append ht]
  rfl

/-- A member is taken, and then what is left of the object. -/
theorem takeMembers_entry {lead t u : Octets} {e : Entry} (hlead : Leads later lead)
    (h : Spells (.entry .object e) t) (hvalue : Settled value e.value)
    (hblanks : ∀ {blanks} (t : Octets), IsBlanks blanks → value (blanks ++ t) = value t)
    (hends : ∀ rest, Ends (u ++ 0x7D :: rest))
    (hmore : ∀ done, Closed (fun turns => takeMembers value turns true done) 0x7D u) :
    Closed (fun turns => takeMembers value turns later done) 0x7D (lead ++ (t ++ u)) := by
  obtain ⟨s?, blanks, behind, _, hname⟩ := nextName_entry hlead h
  have hassoc : ∀ rest, lead ++ (t ++ u) ++ 0x7D :: rest = lead ++ (t ++ (u ++ 0x7D :: rest)) := by
    simp
  obtain ⟨v?, hv⟩ := hvalue
  cases s? with
  | none =>
    refine .of_error fun b turns rest => ?_
    obtain ⟨_, _, hnone⟩ := hname (u ++ 0x7D :: rest)
    obtain ⟨stop, hstop⟩ := error_of_toOption hnone
    refine ⟨stop, ?_⟩
    rw [hassoc, takeMembers, hstop]
  | some s =>
    cases v? with
    | none =>
      refine .of_error fun b turns rest => ?_
      obtain ⟨_, hcolon, hsome⟩ := hname (u ++ 0x7D :: rest)
      obtain ⟨stop, hstop⟩ := error_of_toOption (hv _ (hends rest))
      refine ⟨stop, ?_⟩
      rw [hassoc, takeMembers, ok_of_toOption hsome]
      simp only [hcolon, hblanks _ behind, hstop]
    | some v =>
      have hpos := h.length_pos
      refine (hmore (setMember s v done)).of_turn (by simp; omega) fun b turns rest => ?_
      obtain ⟨_, hcolon, hsome⟩ := hname (u ++ 0x7D :: rest)
      rw [hassoc, takeMembers, ok_of_toOption hsome]
      simp only [hcolon, hblanks _ behind, ok_of_toOption (hv _ (hends rest))]

end Members

/-! ## Values -/

theorem takeValue_blanks (depth : Nat) {t : Octets} (h : IsBlanks t) (u : Octets) :
    takeValue depth (t ++ u) = takeValue depth u := by
  cases depth with
  | zero => rw [takeValue, takeValue, skipBlanks_append h]
  | succ depth => rw [takeValue, takeValue, skipBlanks_append h]

theorem takeLeaf_of_isDigit {b : UInt8} (h : isDigit b = true) (rest : Octets) :
    takeLeaf b rest = (takeNumber false (b :: rest)).map fun (n, rest) => (.number n, rest) := by
  have hmem := mem_digitOctets h
  simp only [digitOctets, List.mem_cons, List.not_mem_nil, or_false] at hmem
  rcases hmem with rfl | rfl | rfl | rfl | rfl | rfl | rfl | rfl | rfl | rfl <;> rfl

/-- A value that begins with a digit is a number without a sign. -/
theorem takeValue_of_isDigit {b : UInt8} (h : isDigit b = true) (depth : Nat) (t : Octets) :
    takeValue (depth + 1) (b :: t) =
      (takeNumber false (b :: t)).map fun (n, rest) => (.number n, rest) := by
  have hopens : ∀ b ∈ digitOctets, Octets.char b ≠ '[' ∧ Octets.char b ≠ '{' := by
    decide +kernel
  obtain ⟨hlist, hobject⟩ := hopens b (mem_digitOctets h)
  rw [takeValue, skipBlanks_cons (starts_of_isDigit h).1]
  simp only
  rw [if_neg hlist, if_neg hobject, takeLeaf_of_isDigit h]

theorem IsNumber.take {t : Octets} (h : IsNumber t) (depth : Nat) :
    Settled (takeValue (depth + 1)) t := by
  cases h with
  | plain unsigned =>
    refine (takeNumber_settled false unsigned).map .number fun rest => ?_
    obtain ⟨b, u, rfl, hb⟩ := unsigned.starts
    exact takeValue_of_isDigit hb depth (u ++ rest)
  | minus unsigned => exact (takeNumber_settled true unsigned).map .number fun rest => rfl

/-- A bracket is read as the reader of what stands in it reads that. -/
theorem Closed.settled {α : Type} {read : (turns : Octets) → Reader α} {bracket : Bracket}
    {t : Octets} (f : α → Json) (depth : Nat) (h : Closed read bracket.closing t)
    (hread : ∀ u, takeValue (depth + 1) (bracket.opening :: u) =
      (read (bracket.opening :: u) u).map fun (x, rest) => (f x, rest)) :
    Settled (takeValue (depth + 1)) (bracket.opening :: (t ++ [bracket.closing])) := by
  obtain ⟨x?, hx⟩ := h
  refine ⟨x?.map f, fun rest _ => ?_⟩
  have hturns : t.length < (bracket.opening :: (t ++ bracket.closing :: rest)).length := by
    simp only [List.length_append, List.length_cons]
    omega
  have hinside := hx _ rest hturns
  rw [List.cons_append, List.append_assoc, List.singleton_append, hread, toOption_map, hinside]
  cases x? <;> rfl

theorem IsString.take {t : Octets} (h : IsString t) (depth : Nat) :
    Settled (takeValue (depth + 1)) t := by
  obtain ⟨characters⟩ := h
  obtain ⟨s?, hs⟩ := takeString_append characters
  refine ⟨s?.map .string, fun rest _ => ?_⟩
  rw [List.cons_append, takeValue_string, toOption_map, List.append_assoc,
    List.singleton_append, hs]
  cases s? <;> rfl

/-- What is true of every part of a text: its values are read as a whole, whatever stands behind
them, and so are its brackets with turns enough. -/
def Reads : Part → Octets → Prop
  | .value, t => ∀ depth, Settled (takeValue depth) t
  | .entry _ e, _ => ∀ depth, Settled (takeValue depth) e.value
  | .inside .list _, t => ∀ depth, Closed (fun turns => takeItems (takeValue depth) turns []) 0x5D t
  | .more .list _, t => ∀ depth done, done ≠ [] →
      Closed (fun turns => takeItems (takeValue depth) turns done) 0x5D t
  | .inside .object _, t => ∀ depth,
      Closed (fun turns => takeMembers (takeValue depth) turns false []) 0x7D t
  | .more .object _, t => ∀ depth done,
      Closed (fun turns => takeMembers (takeValue depth) turns true done) 0x7D t

/-- With no room for brackets nothing is read. -/
theorem reads_of_succ {t : Octets} (h : ∀ depth, Settled (takeValue (depth + 1)) t) :
    Reads .value t := by
  intro depth
  cases depth with
  | zero => exact ⟨none, fun _ _ => rfl⟩
  | succ depth => exact h depth

theorem Spells.reads {part : Part} {t : Octets} (h : Spells part t) : Reads part t := by
  induction h with
  | null => exact reads_of_succ fun _ => ⟨some .null, fun _ _ => rfl⟩
  | truth => exact reads_of_succ fun _ => ⟨some (.bool true), fun _ _ => rfl⟩
  | falsehood => exact reads_of_succ fun _ => ⟨some (.bool false), fun _ _ => rfl⟩
  | number number => exact reads_of_succ number.take
  | string string => exact reads_of_succ string.take
  | @bracket bracket es t inside ih =>
    refine reads_of_succ fun depth => ?_
    cases depth with
    | zero =>
      refine ⟨none, fun rest _ => ?_⟩
      cases bracket <;> rfl
    | succ depth =>
      cases bracket with
      | list => exact (ih (depth + 1)).settled .array (depth + 1) fun _ => rfl
      | object => exact (ih (depth + 1)).settled .object (depth + 1) fun _ => rfl
  | entry before label behind spelled ih => exact ih
  | @blank bracket t blanks =>
    cases bracket with
    | list => exact fun depth => takeItems_end _ _ blanks
    | object => exact fun depth => takeMembers_end _ _ _ blanks
  | @first bracket e es t u entry more ihentry ihmore =>
    cases bracket with
    | list =>
      intro depth
      exact takeItems_entry (takeValue depth) [] .first entry (ihentry depth) more.ends
        fun v => ihmore depth [v] (List.cons_ne_nil _ _)
    | object =>
      intro depth
      exact takeMembers_entry (takeValue depth) false [] .first entry (ihentry depth)
        (fun u h => takeValue_blanks depth h u) more.ends (ihmore depth)
  | @last bracket t blanks =>
    cases bracket with
    | list => exact fun depth done _ => takeItems_end _ done blanks
    | object => exact fun depth done => takeMembers_end _ true done blanks
  | @next bracket e es t u v blanks entry more ihentry ihmore =>
    have hlead : t ++ 0x2C :: (u ++ v) = (t ++ [0x2C]) ++ (u ++ v) := by simp
    rw [hlead]
    cases bracket with
    | list =>
      intro depth done hdone
      have hcomma : Leads (!done.isEmpty) (t ++ [0x2C]) := by
        rw [List.isEmpty_eq_false_iff.2 hdone]
        exact .comma blanks
      exact takeItems_entry (takeValue depth) done hcomma entry (ihentry depth) more.ends
        fun v => ihmore depth (v :: done) (List.cons_ne_nil _ _)
    | object =>
      intro depth done
      exact takeMembers_entry (takeValue depth) true done (.comma blanks) entry (ihentry depth)
        (fun u h => takeValue_blanks depth h u) more.ends (ihmore depth)

/-! ## Depth -/

theorem takeItems_mono {α : Type} {item item' : Reader α}
    (h : ∀ t r, item t = .ok r → item' t = .ok r) (turns : Octets) (done : List α) (t : Octets)
    (r : List α × Octets) (hr : takeItems item turns done t = .ok r) :
    takeItems item' turns done t = .ok r := by
  induction turns generalizing done t with
  | nil => cases hr
  | cons b turns ih =>
    unfold takeItems at hr ⊢
    split
    · rename_i hnext
      simp only [hnext] at hr
      cases hr
    · rename_i hnext
      simpa only [hnext] using hr
    · rename_i u hnext
      simp only [hnext] at hr
      cases hitem : item u with
      | error stop =>
        rw [hitem] at hr
        cases hr
      | ok x =>
        rw [hitem] at hr
        rw [h u x hitem]
        exact ih _ _ hr

theorem takeMembers_mono {value value' : Reader Json}
    (h : ∀ t r, value t = .ok r → value' t = .ok r) (turns : Octets) (later : Bool)
    (done : List (String × Json)) (t : Octets) (r : List (String × Json) × Octets)
    (hr : takeMembers value turns later done t = .ok r) :
    takeMembers value' turns later done t = .ok r := by
  induction turns generalizing later done t with
  | nil => cases hr
  | cons b turns ih =>
    unfold takeMembers at hr ⊢
    split
    · rename_i hnext
      simp only [hnext] at hr
      cases hr
    · rename_i hnext
      simpa only [hnext] using hr
    · rename_i name u hnext
      simp only [hnext] at hr
      cases hcolon : takeColon u with
      | error stop =>
        rw [hcolon] at hr
        cases hr
      | ok u =>
        simp only [hcolon] at hr ⊢
        cases hvalue : value u with
        | error stop =>
          rw [hvalue] at hr
          cases hr
        | ok x =>
          rw [hvalue] at hr
          rw [h u x hvalue]
          exact ih _ _ _ hr

/-- What is read is read in the same way with more room for brackets. -/
theorem takeValue_succ (depth : Nat) (t : Octets) (r : Json × Octets)
    (h : takeValue depth t = .ok r) : takeValue (depth + 1) t = .ok r := by
  induction depth generalizing t r with
  | zero => cases h
  | succ depth ih =>
    unfold takeValue at h ⊢
    split
    · rename_i hblanks
      simp only [hblanks] at h
      cases h
    · rename_i b u hblanks
      simp only [hblanks] at h
      by_cases hzero : depth = 0
      · rw [if_pos hzero, if_pos hzero] at h
        split at h
        · cases h
        · split at h
          · cases h
          · rename_i hlist hobject
            rw [if_neg hlist, if_neg hobject]
            exact h
      · rw [if_neg hzero, if_neg hzero] at h
        rw [if_neg (Nat.succ_ne_zero depth), if_neg (Nat.succ_ne_zero depth)]
        split
        · rename_i hlist
          rw [if_pos hlist] at h
          obtain ⟨x, hx, rfl⟩ := ok_of_map h
          rw [takeItems_mono ih _ _ _ _ hx]
          rfl
        · rename_i hlist
          rw [if_neg hlist] at h
          split
          · rename_i hobject
            rw [if_pos hobject] at h
            obtain ⟨x, hx, rfl⟩ := ok_of_map h
            rw [takeMembers_mono ih _ _ _ _ _ hx]
            rfl
          · rename_i hobject
            rw [if_neg hobject] at h
            exact h

theorem takeValue_le {depth depth' : Nat} (hle : depth ≤ depth') {t : Octets} {r : Json × Octets}
    (h : takeValue depth t = .ok r) : takeValue depth' t = .ok r := by
  induction hle with
  | refl => exact h
  | step _ ih => exact takeValue_succ _ t r ih

/-- What is taken from the front of a text is the value that is spelled there. -/
theorem Spells.takeValue {depth : Nat} {t rest u : Octets} {v : Json} (h : Spells .value t)
    (hrest : Ends rest) (hdepth : depth ≤ depthLimit)
    (htake : takeValue depth (t ++ rest) = .ok (v, u)) : u = rest ∧ ofOctets t = .ok v := by
  obtain ⟨v?, hv⟩ := h.reads depth
  have hthere := hv rest hrest
  have halone := hv [] ends_nil
  rw [htake] at hthere
  cases v? with
  | none => cases hthere
  | some w =>
    obtain ⟨rfl, rfl⟩ := Prod.mk.inj (Option.some.inj hthere)
    refine ⟨rfl, ?_⟩
    have htaken := takeValue_le hdepth (ok_of_toOption halone)
    rw [List.append_nil] at htaken
    unfold ofOctets readWhole
    rw [htaken]
    rfl

end Workspaces.Json
