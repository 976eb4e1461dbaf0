-- The command line: what its arguments say of the settings, and that to say it there is as good as to
-- have set it.
import Mathlib.Data.List.TakeDrop
import Workspaces.Config.CommandLine
import Workspaces.Proofs.Config.Loading

namespace Workspaces

namespace CommandLine

/-! ## Arguments -/

/-- The option as it stands among the arguments. -/
def Opt.word : Opt → String
  | host => "--host"
  | port => "--port"
  | logLevel => "--log-level"

/-- The argument can be the value of the option in front of it: it does not look like an option. -/
def IsValue (arg : String) : Prop := arg = "-" ∨ arg.toList.head? ≠ some '-'

/-- The arguments give options these values, in this order: each behind an equals sign or as the
next argument. Two hyphens may end them. -/
inductive Spells : List String → List (Opt × String) → Prop where
  | nil : Spells [] []
  | closed : Spells ["--"] []
  | joined (o : Opt) (value : String) {args : List String} {given : List (Opt × String)}
    (more : Spells args given) : Spells ((o.word ++ "=" ++ value) :: args) ((o, value) :: given)
  | apart (o : Opt) {value : String} {args : List String} {given : List (Opt × String)}
    (isValue : IsValue value) (more : Spells args given) :
    Spells (o.word :: value :: args) ((o, value) :: given)

/-- The name of the option behind its hyphens. -/
def Opt.name (o : Opt) : List Char := o.word.toList.drop 2

theorem named?_name (o : Opt) : named? o.name = some (.option o) := by
  cases o <;> rfl

theorem word_eq (o : Opt) : o.word.toList = '-' :: '-' :: o.name := by
  cases o <;> rfl

theorem eq_name_of_named? {name : List Char} {o : Opt} (h : named? name = some (.option o)) :
    name = o.name := by
  unfold named? at h
  have hname : name = (String.ofList name).toList := String.toList_ofList.symm
  split at h
  case h_1 heq | h_2 heq | h_3 heq =>
    obtain rfl := Named.option.inj (Option.some.inj h)
    rw [hname, heq]
    rfl
  all_goals cases h

theorem argument_word (o : Opt) : Argument.of o.word.toList = .long o.name none := by
  cases o <;> rfl

theorem argument_joined (o : Opt) (value : String) :
    Argument.of (o.word ++ "=" ++ value).toList = .long o.name (some value.toList) := by
  rw [String.toList_append, String.toList_append]
  cases o <;> rfl

/-- What an argument is taken for, and what it then looks like. -/
inductive Shape : List Char → Argument → Prop where
  | separator : Shape ['-', '-'] .separator
  | word (name : List Char) : Shape ('-' :: '-' :: name) (.long name none)
  | joined (name value : List Char) :
    Shape ('-' :: '-' :: (name ++ '=' :: value)) (.long name (some value))
  | short (c : Char) (letters : List Char) : Shape ('-' :: c :: letters) (.short (c :: letters))
  | plain {cs : List Char} (unlike : cs = ['-'] ∨ cs.head? ≠ some '-') : Shape cs .plain

theorem shape_of (cs : List Char) : Shape cs (Argument.of cs) := by
  unfold Argument.of
  split
  · exact .separator
  · rename_i rest _
    have hspan : rest.takeWhile (· ≠ '=') ++ rest.dropWhile (· ≠ '=') = rest :=
      List.takeWhile_append_dropWhile
    rw [List.span_eq_takeWhile_dropWhile]
    cases hvalue : rest.dropWhile (· ≠ '=') with
    | nil =>
      rw [hvalue, List.append_nil] at hspan
      simp only [hspan]
      exact .word rest
    | cons sign value =>
      have hsign : sign = '=' := by
        have hhead := List.head?_dropWhile_not (· ≠ '=') rest
        rw [hvalue] at hhead
        simpa using hhead
      rw [hvalue, hsign] at hspan
      have hjoined := Shape.joined (rest.takeWhile (· ≠ '=')) value
      rwa [hspan] at hjoined
  · exact .short _ _
  · rename_i _ _ hshort
    refine .plain ?_
    cases cs with
    | nil => simp
    | cons c rest =>
      by_cases hc : c = '-'
      · subst hc
        cases rest with
        | nil => exact .inl rfl
        | cons d rest => exact absurd rfl (hshort d rest)
      · simp [hc]

namespace Shape

variable {cs name value : List Char}

theorem eq_separator (h : Shape cs .separator) : cs = ['-', '-'] := by
  cases h
  rfl

theorem eq_word (h : Shape cs (.long name none)) : cs = '-' :: '-' :: name := by
  cases h
  rfl

theorem eq_joined (h : Shape cs (.long name (some value))) :
    cs = '-' :: '-' :: (name ++ '=' :: value) := by
  cases h
  rfl

theorem eq_plain {arg : Argument} (h : Shape cs arg) (hhead : cs.head? ≠ some '-') :
    arg = .plain := by
  cases h with
  | separator | word | joined | short => exact absurd rfl hhead
  | plain => rfl

theorem unlike_option (h : Shape cs .plain) : cs = ['-'] ∨ cs.head? ≠ some '-' := by
  cases h
  assumption

end Shape

theorem eq_separator {arg : String} (h : Argument.of arg.toList = .separator) : arg = "--" :=
  String.toList_inj.1 (h ▸ shape_of arg.toList).eq_separator

theorem eq_word {arg : String} {name : List Char} {o : Opt}
    (h : Argument.of arg.toList = .long name none) (hname : named? name = some (.option o)) :
    arg = o.word := by
  have hshape : arg.toList = '-' :: '-' :: name := (h ▸ shape_of arg.toList).eq_word
  apply String.toList_inj.1
  rw [hshape, word_eq, eq_name_of_named? hname]

theorem eq_joined {arg : String} {name value : List Char} {o : Opt}
    (h : Argument.of arg.toList = .long name (some value))
    (hname : named? name = some (.option o)) : arg = o.word ++ "=" ++ String.ofList value := by
  have hshape : arg.toList = '-' :: '-' :: (name ++ '=' :: value) :=
    (h ▸ shape_of arg.toList).eq_joined
  apply String.toList_inj.1
  rw [String.toList_append, String.toList_append, String.toList_ofList, hshape, word_eq,
    eq_name_of_named? hname]
  simp

theorem isValue_of_plain {arg : String} (h : Argument.of arg.toList = .plain) : IsValue arg := by
  rcases (h ▸ shape_of arg.toList).unlike_option with hhyphen | hhead
  · exact .inl (String.toList_inj.1 hhyphen)
  · exact .inr hhead

theorem argument_value {value : String} (h : IsValue value) :
    Argument.of value.toList = .plain := by
  rcases h with rfl | hhead
  · rfl
  · exact (shape_of value.toList).eq_plain hhead

/-! ## Reading -/

/-- Gives options their values one after another. -/
def assignAll (given : Overrides) : List (Opt × String) → Except Refusal Overrides
  | [] => .ok given
  | (o, value) :: more => (assign given o (some value)).bind fun given => assignAll given more

/-- Arguments are read as the values that they give, once a pending option has its own. -/
theorem readFrom_of_spells {args : List String} {values : List (Opt × String)}
    (h : Spells args values) (given : Overrides) (pending : Option Pending) :
    readFrom given pending args =
      (settle given pending).bind fun given => assignAll given values := by
  induction h generalizing given pending with
  | nil =>
    rw [readFrom]
    cases settle given pending <;> rfl
  | closed =>
    have hseparator : Argument.of "--".toList = .separator := rfl
    rw [readFrom.eq_def]
    simp only [hseparator]
    cases settle given pending <;> rfl
  | @joined o value args values more ih =>
    rw [readFrom.eq_def]
    simp only [argument_joined, named?_name, String.ofList_toList, ih, settle]
    rfl
  | @apart o value args values isValue more ih =>
    rw [readFrom.eq_def]
    simp only [argument_word, named?_name]
    congr
    funext given
    rw [readFrom.eq_def]
    simp only [argument_value isValue, ih, settle]
    rfl

/-- The arguments with an option in front whose value is still to come. -/
def withPending : Option Pending → List String → List String
  | some ⟨o, none⟩, args => o.word :: args
  | _, args => args

/-- An option whose value is still to come cannot be settled. -/
theorem withPending_of_settle {given o : Overrides} {pending : Option Pending}
    (h : settle given pending = .ok o) (args : List String) : withPending pending args = args := by
  unfold withPending
  split
  · cases h
  · rfl

/-- Arguments that are read give options their values. -/
theorem spells_of_readFrom {given o : Overrides} {pending : Option Pending} {args : List String}
    (h : readFrom given pending args = .ok o) :
    ∃ values, Spells (withPending pending args) values := by
  fun_induction readFrom given pending args generalizing o with
  | case1 given pending =>
    rw [withPending_of_settle h]
    exact ⟨[], .nil⟩
  | case2 given pending arg harg =>
    obtain rfl := eq_separator harg
    rw [withPending_of_settle h]
    exact ⟨[], .closed⟩
  -- A flag ends the reading, with two hyphens or with one.
  | case6 | case10 =>
    obtain ⟨_, _, herror⟩ := ok_of_bind h
    cases herror
  | case7 given pending arg args name p value hname harg ih =>
    obtain ⟨given', hsettle, hread⟩ := ok_of_bind h
    obtain ⟨next, _, hmore⟩ := ok_of_bind hread
    obtain ⟨values, hvalues⟩ := ih next hmore
    obtain rfl := eq_joined harg hname
    rw [withPending_of_settle hsettle]
    exact ⟨_, .joined p (String.ofList value) hvalues⟩
  | case8 given pending arg args name p hname harg ih =>
    obtain ⟨given', hsettle, hmore⟩ := ok_of_bind h
    obtain rfl := eq_word harg hname
    rw [withPending_of_settle hsettle]
    exact ih given' hmore
  | case11 given arg args harg p ih =>
    obtain ⟨values, hvalues⟩ := ih h
    exact ⟨_, .apart p (isValue_of_plain harg) hvalues⟩
  -- The arguments are refused where they stand.
  | case3 | case4 | case5 | case9 | case12 => cases h

theorem read_eq_ok_iff_assignAll (args : List String) (o : Overrides) :
    read args = .ok o ↔ ∃ values, Spells args values ∧ assignAll .none values = .ok o := by
  unfold read
  constructor
  · intro h
    obtain ⟨values, hvalues⟩ : ∃ values, Spells args values := spells_of_readFrom h
    rw [readFrom_of_spells hvalues] at h
    exact ⟨values, hvalues, h⟩
  · rintro ⟨values, hvalues, hassign⟩
    rw [readFrom_of_spells hvalues]
    exact hassign

end CommandLine

/-! ## What the options come to -/

open CommandLine

/-- What is told to override an option. A port is told in decimal. -/
def Overrides.text? (o : Overrides) : Opt → Option String
  | .host => o.host
  | .port => o.port.map fun n => toString n.toNat
  | .logLevel => o.logLevel

/-- What an option makes of a value. Of a port it takes the number. -/
def CommandLine.Opt.read : Opt → String → Except Refusal String
  | port, value => (readPort value).map fun n => toString n.toNat
  | host, value | logLevel, value => .ok value

/-- The overrides are what options make of their values, each of which is given once at most. -/
structure Overrides.TakenFrom (o : Overrides) (given : List (Opt × String)) : Prop where
  once : (given.map (·.1)).Nodup
  told : ∀ pair ∈ given, ∃ text, pair.1.read pair.2 = .ok text ∧ o.text? pair.1 = some text
  untold : ∀ p, p ∉ given.map (·.1) → o.text? p = .none

namespace Overrides

theorem toString_inj {m n : Nat} (h : toString m = toString n) : m = n := by
  rw [Nat.toString_eq_ofList_toDigits, Nat.toString_eq_ofList_toDigits] at h
  exact Numeral.toDigits_inj (String.ofList_injective h)

/-- Overrides are told by their texts. -/
theorem ext_text? {o o' : Overrides} (h : ∀ p, o.text? p = o'.text? p) : o = o' := by
  obtain ⟨host, port, logLevel⟩ := o
  obtain ⟨host', port', logLevel'⟩ := o'
  have hport : port = port' := by
    refine Option.map_injective ?_ (h .port)
    exact fun m n hmn => UInt16.toNat_inj.1 (toString_inj hmn)
  have hhost : host = host' := h .host
  have hlevel : logLevel = logLevel' := h .logLevel
  rw [hport, hhost, hlevel]

/-- An option can be assigned a value once, if it can make something of that. -/
theorem exists_assign {o : Overrides} {p : Opt} {value text : String} (hfree : o.text? p = .none)
    (hread : p.read value = .ok text) : ∃ o', assign o p (some value) = .ok o' := by
  cases p with
  | host =>
    have hhost : o.host = .none := hfree
    exact ⟨_, by rw [assign, hhost]; rfl⟩
  | port =>
    have hport : o.port = .none := Option.map_eq_none_iff.1 hfree
    obtain ⟨n, hn, _⟩ := ok_of_map hread
    exact ⟨_, by rw [assign, hport, hn]; rfl⟩
  | logLevel =>
    have hlevel : o.logLevel = .none := hfree
    exact ⟨_, by rw [assign, hlevel]; rfl⟩

/-- What assigning a value to an option does: the other options are as they were. -/
theorem of_assign {o o' : Overrides} {p : Opt} {value : String}
    (h : assign o p (some value) = .ok o') :
    o.text? p = .none ∧ (∃ text, p.read value = .ok text ∧ o'.text? p = some text) ∧
      ∀ q, q ≠ p → o'.text? q = o.text? q := by
  cases p with
  | host | logLevel =>
    rw [assign] at h
    split at h
    · cases h
    · rename_i hfree
      obtain rfl := Except.ok.inj h
      refine ⟨by simpa [text?] using hfree, ⟨value, rfl, rfl⟩, fun q hq => ?_⟩
      cases q <;> first | rfl | exact absurd rfl hq
  | port =>
    rw [assign] at h
    split at h
    · cases h
    · rename_i hfree
      obtain ⟨n, hn, rfl⟩ := ok_of_map h
      have hread : Opt.port.read value = .ok (toString n.toNat) := by
        rw [Opt.read, hn]
        rfl
      refine ⟨by simpa [text?] using hfree, ⟨toString n.toNat, hread, rfl⟩, fun q hq => ?_⟩
      cases q <;> first | rfl | exact absurd rfl hq

/-- Values are assigned one after another if no option is given twice, nor one that has a value
already, and if each option makes something of its value. Options that are not given stay. -/
theorem assignAll_eq_ok_iff (start : Overrides) (given : List (Opt × String)) (o : Overrides) :
    assignAll start given = .ok o ↔ (given.map (·.1)).Nodup ∧
      (∀ pair ∈ given, start.text? pair.1 = .none ∧
        ∃ text, pair.1.read pair.2 = .ok text ∧ o.text? pair.1 = some text) ∧
      ∀ p, p ∉ given.map (·.1) → o.text? p = start.text? p := by
  induction given generalizing start with
  | nil =>
    rw [assignAll, Except.ok.injEq]
    constructor
    · rintro rfl
      simp
    · rintro ⟨_, _, hkept⟩
      exact ext_text? fun p => (hkept p (by simp)).symm
  | cons pair more ih =>
    obtain ⟨p, value⟩ := pair
    rw [assignAll, List.map_cons, List.nodup_cons, List.forall_mem_cons]
    constructor
    · intro h
      obtain ⟨next, hnext, hmore⟩ := ok_of_bind h
      obtain ⟨hfree, ⟨text, hread, htext⟩, hothers⟩ := of_assign hnext
      obtain ⟨honce, htold, hkept⟩ := (ih next).1 hmore
      -- What is given further on must still be free, and this option no longer is.
      have hnew : p ∉ more.map (·.1) := by
        intro hp
        obtain ⟨again, hagain, hpagain⟩ := List.mem_map.1 hp
        have hnone := (htold again hagain).1
        rw [hpagain, htext] at hnone
        cases hnone
      refine ⟨⟨hnew, honce⟩, ⟨⟨hfree, text, hread, (hkept p hnew).trans htext⟩, ?_⟩, ?_⟩
      · intro other hother
        have hne : other.1 ≠ p := fun heq => hnew (List.mem_map.2 ⟨other, hother, heq⟩)
        exact ⟨(hothers _ hne) ▸ (htold other hother).1, (htold other hother).2⟩
      · intro q hq
        rw [List.mem_cons, not_or] at hq
        exact (hkept q hq.2).trans (hothers q hq.1)
    · rintro ⟨⟨hnew, honce⟩, ⟨⟨hfree, text, hread, htext⟩, htold⟩, hkept⟩
      obtain ⟨next, hnext⟩ := exists_assign hfree hread
      obtain ⟨_, ⟨text', hread', htext'⟩, hothers⟩ := of_assign hnext
      obtain rfl : text = text' := Except.ok.inj (hread.symm.trans hread')
      rw [hnext]
      refine (ih next).2 ⟨honce, ?_, ?_⟩
      · intro other hother
        have hne : other.1 ≠ p := fun heq => hnew (List.mem_map.2 ⟨other, hother, heq⟩)
        exact ⟨(hothers _ hne).trans (htold other hother).1, (htold other hother).2⟩
      · intro q hq
        by_cases hqp : q = p
        · rw [hqp, htext, htext']
        · exact (hkept q (by simp [hqp, hq])).trans (hothers q hqp).symm

theorem takenFrom_iff (given : List (Opt × String)) (o : Overrides) :
    assignAll .none given = .ok o ↔ o.TakenFrom given := by
  have hnone : ∀ p, Overrides.none.text? p = .none := by
    intro p
    cases p <;> rfl
  rw [assignAll_eq_ok_iff]
  simp only [hnone, true_and]
  exact ⟨fun ⟨once, told, untold⟩ => ⟨once, told, untold⟩, fun h => ⟨h.once, h.told, h.untold⟩⟩

end Overrides

/-- Arguments are read exactly if they give each option a value once at most, of which it can make
something. -/
theorem CommandLine.read_eq_ok_iff (args : List String) (o : Overrides) :
    read args = .ok o ↔ ∃ given, Spells args given ∧ o.TakenFrom given := by
  simp only [read_eq_ok_iff_assignAll, Overrides.takenFrom_iff]

/-! ## Overriding -/

/-- The key under which the option's setting is told. -/
def CommandLine.Opt.key : Opt → String
  | host => "SERVER_HOST"
  | port => "SERVER_PORT"
  | logLevel => "LOG_LEVEL"

/-- The setting that the option overrides. -/
def CommandLine.Opt.slot : Opt → Config.Slot
  | host => Config.slots[0]
  | port => Config.slots[1]
  | logLevel => Config.slots[3]

namespace Overrides

/-- The pairs that tell what is overridden. -/
def pairs (o : Overrides) : List (String × String) :=
  [Opt.host, .port, .logLevel].filterMap fun p => (o.text? p).map fun text => (p.key, text)

/-- The pairs whose settings are not overridden, in letters of either case. -/
def spared (o : Overrides) (pairs : List (String × String)) : List (String × String) :=
  pairs.filter fun pair => Config.lowerKey pair.1 ∉ o.pairs.map fun told => Config.lowerKey told.1

theorem mem_pairs_iff (o : Overrides) (pair : String × String) :
    pair ∈ o.pairs ↔ ∃ p : Opt, ∃ text, o.text? p = some text ∧ pair = (p.key, text) := by
  have hall : ∀ p : Opt, p ∈ [Opt.host, .port, .logLevel] := by
    intro p
    cases p <;> decide
  unfold pairs
  simp only [List.mem_filterMap, hall, true_and, Option.map_eq_some_iff]
  exact exists_congr fun p => exists_congr fun text => and_congr_right fun _ => eq_comm

theorem mem_spared_iff (o : Overrides) (pairs : List (String × String)) (pair : String × String) :
    pair ∈ o.spared pairs ↔
      pair ∈ pairs ∧ ∀ told ∈ o.pairs, Config.lowerKey told.1 ≠ Config.lowerKey pair.1 := by
  unfold spared
  simp

theorem key_slot (p : Opt) : Config.lowerKey p.key = p.slot.name := by
  cases p <;> decide

theorem slot_mem (p : Opt) : p.slot ∈ Config.slots := by
  cases p <;> exact List.getElem_mem _

/-- What is told to override a setting is what stands there then. -/
theorem tells_text? {o : Overrides} {p : Opt} {text : String} (h : o.text? p = some text)
    (c : Config) : p.slot.tells text (p.slot.field (o.apply c)) := by
  cases p with
  | host =>
    have hhost : o.host = some text := h
    change text = o.host.getD c.host
    rw [hhost]
    rfl
  | port =>
    obtain ⟨n, hn, rfl⟩ := Option.map_eq_some_iff.1 h
    change Numeral.Tells (toString n.toNat).toList (o.port.getD c.port).toNat
    rw [hn, Nat.toString_eq_ofList_toDigits, String.toList_ofList]
    exact Numeral.tells_toDigits n.toNat
  | logLevel =>
    have hlevel : o.logLevel = some text := h
    change text = o.logLevel.getD c.logLevel
    rw [hlevel]
    rfl

/-- What is not overridden stays. -/
theorem field_apply {o : Overrides} {s : Config.Slot} (hs : s ∈ Config.slots)
    (h : ∀ p : Opt, p.slot = s → o.text? p = .none) (c : Config) :
    s.field (o.apply c) = s.field c := by
  simp only [Config.slots, List.mem_cons, List.not_mem_nil, or_false] at hs
  rcases hs with rfl | rfl | rfl | rfl | rfl | rfl | rfl | rfl | rfl | rfl
  case inl =>
    have hhost : o.host = .none := h .host rfl
    change o.host.getD c.host = c.host
    rw [hhost]
    rfl
  case inr.inl =>
    have hport : o.port = .none := Option.map_eq_none_iff.1 (h .port rfl)
    change o.port.getD c.port = c.port
    rw [hport]
    rfl
  case inr.inr.inr.inl =>
    have hlevel : o.logLevel = .none := h .logLevel rfl
    change o.logLevel.getD c.logLevel = c.logLevel
    rw [hlevel]
    rfl
  all_goals rfl

theorem keys_sublist (o : Overrides) :
    (o.pairs.map fun told => Config.lowerKey told.1).Sublist
      ([Opt.host, .port, .logLevel].map fun p => Config.lowerKey p.key) := by
  unfold pairs
  generalize [Opt.host, .port, .logLevel] = options
  induction options with
  | nil => exact .slnil
  | cons p options ih =>
    cases htext : o.text? p with
    | none =>
      rw [List.filterMap_cons_none (by rw [htext]; rfl)]
      exact ih.cons _
    | some text =>
      rw [List.filterMap_cons_some (b := (p.key, text)) (by rw [htext]; rfl)]
      exact ih.cons_cons _

theorem nodup_pairs (o : Overrides) : (Config.givenNames o.pairs).Nodup := by
  have hkeys : ([Opt.host, .port, .logLevel].map fun p => Config.lowerKey p.key).Nodup := by
    decide
  exact (hkeys.sublist o.keys_sublist).filter _

theorem nodup_overridden {o : Overrides} {pairs : List (String × String)}
    (h : (Config.givenNames pairs).Nodup) :
    (Config.givenNames (o.pairs ++ o.spared pairs)).Nodup := by
  rw [Config.givenNames_append, List.nodup_append]
  refine ⟨o.nodup_pairs, h.sublist (Config.givenNames_sublist List.filter_sublist), ?_⟩
  rintro name hname _ hname' rfl
  obtain ⟨told, htold, rfl⟩ := List.mem_map.1 (List.mem_filter.1 hname).1
  obtain ⟨pair, hpair, heq⟩ := List.mem_map.1 (List.mem_filter.1 hname').1
  exact ((o.mem_spared_iff pairs pair).1 hpair).2 told htold heq.symm

theorem slot_of_key {p : Opt} {s : Config.Slot} (hs : s ∈ Config.slots)
    (h : Config.lowerKey p.key = s.name) : p.slot = s :=
  Config.slot_ext (slot_mem p) hs ((key_slot p).symm.trans h)

/-- Of a setting that is overridden the option alone tells, for the other pairs of its name are
dropped. -/
theorem holds_overridden {o : Overrides} {p : Opt} {text : String} (htext : o.text? p = some text)
    (c : Config) (pairs : List (String × String)) :
    p.slot.Holds (o.pairs ++ o.spared pairs) (p.slot.field (o.apply c)) := by
  have hpair : (p.key, text) ∈ o.pairs := (o.mem_pairs_iff _).2 ⟨p, text, htext, rfl⟩
  constructor
  · intro pair hmem hname
    rcases List.mem_append.1 hmem with htold | hspared
    · obtain ⟨q, text', htext', rfl⟩ := (o.mem_pairs_iff pair).1 htold
      rw [← slot_of_key (slot_mem p) hname]
      exact tells_text? htext' c
    · have hother := ((o.mem_spared_iff pairs pair).1 hspared).2 _ hpair
      exact absurd ((key_slot p).trans hname.symm) hother
  · intro huntold
    have hother := huntold _ (List.mem_append_left _ hpair)
    exact absurd (key_slot p) hother

/-- Of a setting that is not overridden the pairs tell as they did. -/
theorem holds_spared {o : Overrides} {s : Config.Slot} (hs : s ∈ Config.slots)
    (hfree : ∀ p : Opt, p.slot = s → o.text? p = .none) {pairs : List (String × String)}
    {x : s.Content} (h : s.Holds pairs x) : s.Holds (o.pairs ++ o.spared pairs) x := by
  have hother : ∀ told ∈ o.pairs, Config.lowerKey told.1 ≠ s.name := by
    intro told htold hname
    obtain ⟨p, text, htext, rfl⟩ := (o.mem_pairs_iff told).1 htold
    rw [hfree p (slot_of_key hs hname)] at htext
    cases htext
  constructor
  · intro pair hmem hname
    rcases List.mem_append.1 hmem with htold | hspared
    · exact absurd hname (hother pair htold)
    · exact h.told pair ((o.mem_spared_iff pairs pair).1 hspared).1 hname
  · intro huntold
    refine h.untold fun pair hpair hname => ?_
    have hspared : pair ∈ o.spared pairs :=
      (o.mem_spared_iff pairs pair).2 ⟨hpair, fun told htold => hname ▸ hother told htold⟩
    exact huntold pair (List.mem_append_right _ hspared) hname

/-- Settings with what is overridden replaced are what the pairs give when those of the same
settings are replaced. -/
theorem givenBy_apply {o : Overrides} {c : Config} {pairs : List (String × String)}
    (h : c.GivenBy pairs) : (o.apply c).GivenBy (o.pairs ++ o.spared pairs) := by
  intro s hs
  by_cases hover : ∃ p : Opt, p.slot = s ∧ ∃ text, o.text? p = some text
  · obtain ⟨p, rfl, text, htext⟩ := hover
    exact holds_overridden htext c pairs
  · have hfree : ∀ p : Opt, p.slot = s → o.text? p = .none := by
      intro p hp
      by_contra hsome
      exact hover ⟨p, hp, Option.ne_none_iff_exists'.1 hsome⟩
    rw [field_apply hs hfree]
    exact holds_spared hs hfree (h s hs)

theorem sound_apply {c : Config} (h : c.Sound) (o : Overrides) : (o.apply c).Sound :=
  ⟨h.connections, h.idle, h.format, h.origins⟩

theorem ofPairs_overridden {o : Overrides} {c : Config} {pairs : List (String × String)}
    (h : Config.ofPairs pairs = .ok c) :
    Config.ofPairs (o.pairs ++ o.spared pairs) = .ok (o.apply c) := by
  obtain ⟨hnodup, hgiven, hsound⟩ := (Config.ofPairs_eq_ok_iff pairs c).1 h
  exact (Config.ofPairs_eq_ok_iff _ _).2
    ⟨nodup_overridden hnodup, givenBy_apply hgiven, sound_apply hsound o⟩

/-- To override settings on the command line is to set them in the environment. If pairs give
settings and arguments are read, then the arguments give each option a value once at most, and the
settings with those values in place are what the pairs give, in any order, when the values are told
under the keys of the settings instead of what was told there. They are sound as they were before,
and what no option is given for stays. -/
theorem to_override_settings_is_to_set_them_in_the_environment {pairs : List (String × String)}
    {c : Config} {args : List String} {o : Overrides} (hload : Config.ofPairs pairs = .ok c)
    (hread : read args = .ok o) :
    (∃ given, Spells args given ∧ o.TakenFrom given) ∧
    (∀ pairs', pairs'.Perm (o.pairs ++ o.spared pairs) → Config.ofPairs pairs' = .ok (o.apply c)) ∧
    (o.apply c).check = .ok () ∧
    ∀ s ∈ Config.slots, (∀ p : Opt, p.slot = s → o.text? p = .none) →
      s.field (o.apply c) = s.field c := by
  have hoverridden : Config.ofPairs (o.pairs ++ o.spared pairs) = .ok (o.apply c) :=
    ofPairs_overridden hload
  refine ⟨(read_eq_ok_iff args o).1 hread, ?_, ?_, ?_⟩
  · intro pairs' hperm
    exact Config.ofPairs_of_perm hperm.symm hoverridden
  · obtain ⟨_, _, hsound⟩ := (Config.ofPairs_eq_ok_iff _ _).1 hoverridden
    exact hsound.check
  · intro s hs hfree
    exact field_apply hs hfree c

/-- A port among other settings, in letters of both cases. -/
def Sample.surrounding : List (String × String) :=
  [("PATH", "/bin"), ("Server_Port", "9100"), ("log_format", "pretty")]

/-- The settings that come of them. -/
def Sample.surroundingConfig : Config :=
  { Config.default with port := 9100, logFormat := "pretty" }

/-- Another port and a level, spelled in the two ways there are. -/
def Sample.arguments : List String := ["--port=+09200", "--log-level", "debug", "--"]

theorem a_port_and_a_level_are_overridden :
    Config.ofPairs Sample.surrounding = .ok Sample.surroundingConfig ∧
    read Sample.arguments = .ok ⟨.none, some 9200, some "debug"⟩ ∧
    Config.ofPairs [("log_format", "pretty"), ("LOG_LEVEL", "debug"), ("PATH", "/bin"),
      ("SERVER_PORT", "9200")] =
        .ok { Sample.surroundingConfig with port := 9200, logLevel := "debug" } ∧
    ∃ given, Spells Sample.arguments given ∧
      TakenFrom ⟨.none, some 9200, some "debug"⟩ given := by
  have hload : Config.ofPairs Sample.surrounding = .ok Sample.surroundingConfig := by
    decide +kernel
  have hread : read Sample.arguments = .ok ⟨.none, some 9200, some "debug"⟩ := by
    decide +kernel
  obtain ⟨hgiven, hsame, _⟩ :=
    to_override_settings_is_to_set_them_in_the_environment hload hread
  exact ⟨hload, hread, hsame _ (by decide +kernel), hgiven⟩

end Overrides

end Workspaces
