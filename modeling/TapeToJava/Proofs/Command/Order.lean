import TapeToJava.Proofs.Command.Part

/-! The order of a command line's options does not matter. Taking in the entries of a command line fails if and only if
something is given twice, and then it is a conflict; otherwise each setting has the value given for it and each switch is
on that was given, wherever they stood. -/

namespace TapeToJava.Command

/-! ### What entries give -/

namespace Entry

/-- The value of an entry, if it is for a given setting. -/
def value? (s : Setting) : Entry → Option String
  | value s' v => if s' = s then some v else none
  | switch _ => none

/-- The values among entries for a setting. -/
def values (s : Setting) (es : List Entry) : List String :=
  es.filterMap (value? s)

/-- A value is one that its setting accepts. -/
def IsAccepted : Entry → Prop
  | value s v => s.accepts v = true
  | switch _ => True

theorem values_cons (s : Setting) (e : Entry) (es : List Entry) :
    values s (e :: es) = (value? s e).toList ++ values s es := by
  rw [values, List.filterMap_cons]
  cases value? s e <;> rfl

theorem values_append (s : Setting) (es fs : List Entry) : values s (es ++ fs) = values s es ++ values s fs :=
  List.filterMap_append

end Entry

namespace Given

variable {g next : Given} {e : Entry} {es : List Entry}

/-- The value of a setting, as a list that is empty or has one item. -/
def listed (g : Given) (s : Setting) : List String :=
  (g.value? s).toList

/-- How often a switch is on: once or never. -/
def times (g : Given) (s : Switch) : Nat :=
  if s ∈ g.switches then 1 else 0

theorem length_listed_le (g : Given) (s : Setting) : (g.listed s).length ≤ 1 := by
  rw [listed]
  cases g.value? s with
  | none => exact Nat.zero_le 1
  | some v => exact Nat.le_refl 1

theorem times_le (g : Given) (s : Switch) : g.times s ≤ 1 := by
  rw [times]
  split
  · exact Nat.le_refl 1
  · exact Nat.zero_le 1

/-- What was given before and the entries make up what is given behind them. -/
structure Adds (g : Given) (es : List Entry) (next : Given) : Prop where
  listed_eq : ∀ s, next.listed s = g.listed s ++ Entry.values s es
  times_eq : ∀ s, next.times s = g.times s + es.count (.switch s)

/-- Something that was given before, or by one of the entries, is given again. -/
def Clashes (g : Given) (es : List Entry) : Prop :=
  (∃ s, 1 < (g.listed s ++ Entry.values s es).length) ∨ ∃ s, 1 < g.times s + es.count (.switch s)

theorem Adds.not_clashes (h : g.Adds es next) : ¬ g.Clashes es := by
  rintro (⟨s, hs⟩ | ⟨s, hs⟩)
  · rw [← h.listed_eq] at hs
    exact absurd (next.length_listed_le s) (Nat.not_le_of_lt hs)
  · rw [← h.times_eq] at hs
    exact absurd (next.times_le s) (Nat.not_le_of_lt hs)

/-- One entry is added, unless it is for something that was given before. -/
theorem take_cases (g : Given) (he : e.IsAccepted) :
    (∃ next, g.take e = .ok next ∧ g.Adds [e] next) ∨ g.take e = .error .conflict ∧ g.Clashes [e] := by
  cases e with
  | value s v =>
      have haccepts : s.accepts v = true := he
      cases hvalue : g.value? s with
      | none =>
          refine Or.inl ⟨{ g with values := (s, v) :: g.values }, ?_, fun s' => ?_, fun _ => rfl⟩
          · simp only [take, settle, hvalue, haccepts, Option.isSome_none, Bool.false_eq_true, if_false, if_true]
          · rw [listed, listed, value?, List.lookup_cons, ← value?, Entry.values_cons, Entry.value?]
            by_cases hs : s = s'
            · subst hs
              simp [hvalue, Entry.values]
            · have hs' : (s' == s) = false := beq_false_of_ne (Ne.symm hs)
              simp [hs, hs', Entry.values]
      | some old =>
          refine Or.inr ⟨?_, Or.inl ⟨s, ?_⟩⟩
          · simp only [take, settle, hvalue, Option.isSome_some, if_true]
          · simp [listed, hvalue, Entry.values, Entry.value?]
  | switch s =>
      by_cases hs : s ∈ g.switches
      · refine Or.inr ⟨?_, Or.inr ⟨s, ?_⟩⟩
        · simp only [take, turnOn, hs, if_true]
        · simp [times, hs]
      · refine Or.inl ⟨{ g with switches := s :: g.switches }, ?_, fun s' => ?_, fun s' => ?_⟩
        · simp only [take, turnOn, hs, if_false]
        · simp [listed, value?, Entry.values, Entry.value?]
        · by_cases hs' : s' = s
          · subst hs'
            simp [times, hs]
          · simp [times, hs', Ne.symm hs']

/-- Entries are all added, unless something is given again. -/
theorem takeAll_cases (g : Given) (hes : ∀ e ∈ es, e.IsAccepted) :
    (∃ next, g.takeAll es = .ok next ∧ g.Adds es next) ∨ g.takeAll es = .error .conflict ∧ g.Clashes es := by
  induction es generalizing g with
  | nil => exact Or.inl ⟨g, rfl, fun s => (List.append_nil _).symm, fun _ => rfl⟩
  | cons e es ih =>
      have hvalues : ∀ s, Entry.values s (e :: es) = Entry.values s [e] ++ Entry.values s es := fun s =>
        Entry.values_append s [e] es
      have htimes : ∀ s, (e :: es).count (.switch s) = [e].count (.switch s) + es.count (.switch s) := fun s => by
        rw [← List.count_append, List.singleton_append]
      rcases take_cases g (hes e List.mem_cons_self) with ⟨mid, hmid, hadds⟩ | ⟨herror, hclash⟩
      · have htake : g.takeAll (e :: es) = mid.takeAll es := by
          rw [takeAll, hmid]
          rfl
        rw [htake]
        rcases ih mid fun f hf => hes f (List.mem_cons_of_mem e hf) with ⟨next, hnext, hrest⟩ | ⟨herror, hclash⟩
        · refine Or.inl ⟨next, hnext, fun s => ?_, fun s => ?_⟩
          · rw [hrest.listed_eq, hadds.listed_eq, hvalues, List.append_assoc]
          · rw [hrest.times_eq, hadds.times_eq, htimes, Nat.add_assoc]
        · refine Or.inr ⟨herror, hclash.imp (Exists.imp fun s hs => ?_) (Exists.imp fun s hs => ?_)⟩
          · rw [hvalues, ← List.append_assoc, ← hadds.listed_eq]
            exact hs
          · rw [htimes, ← Nat.add_assoc, ← hadds.times_eq]
            exact hs
      · refine Or.inr ⟨?_, hclash.imp (Exists.imp fun s hs => ?_) (Exists.imp fun s hs => ?_)⟩
        · rw [takeAll, herror]
          rfl
        · rw [hvalues, ← List.append_assoc, List.length_append]
          omega
        · rw [htimes]
          omega

/-- From nothing, entries are refused exactly when something is given twice. -/
theorem takeAll_of_clashes (hes : ∀ e ∈ es, e.IsAccepted) (h : Clashes ⟨[], []⟩ es) :
    takeAll ⟨[], []⟩ es = .error .conflict := by
  rcases takeAll_cases ⟨[], []⟩ hes with ⟨next, -, hadds⟩ | ⟨herror, -⟩
  · exact absurd h hadds.not_clashes
  · exact herror

end Given

/-! ### What the parts of a command line give -/

/-- The value of a part, if it is for a given option. -/
def Part.value? (o : Valued) : Part → Option String
  | plain _ => none
  | attached o' v => if o' = o then some v else none
  | detached o' v => if o' = o then some v else none
  | switch _ => none

/-- The values of an option, in the order in which they are given. -/
def valuesOf (o : Valued) (parts : List Part) : List String :=
  parts.filterMap (Part.value? o)

theorem valuesOf_cons (o : Valued) (p : Part) (parts : List Part) :
    valuesOf o (p :: parts) = (p.value? o).toList ++ valuesOf o parts := by
  rw [valuesOf, List.filterMap_cons]
  cases p.value? o <;> rfl

theorem Entry.value?_setting (o o' : Valued) (v : String) :
    (Entry.value o'.setting v).value? o.setting = if o' = o then some v else none := by
  by_cases h : o' = o
  · rw [h, Entry.value?, if_pos rfl, if_pos rfl]
  · rw [Entry.value?, if_neg (fun heq => h (Valued.setting_injective heq)), if_neg h]

section Parts

variable {places : List Setting} {parts : List Part} {s : Setting}

theorem values_entries (o : Valued) (hplaces : ∀ place ∈ places, place ≠ o.setting) :
    Entry.values o.setting (entries places parts) = valuesOf o parts := by
  fun_induction entries places parts with
  | case1 => rfl
  | case2 text parts ih => exact ih hplaces
  | case3 place places text parts ih =>
      have hplace := hplaces place List.mem_cons_self
      rw [Entry.values_cons, ih fun s hs => hplaces s (List.mem_cons_of_mem place hs), Entry.value?, if_neg hplace]
      rfl
  | case4 places o' v parts ih => rw [Entry.values_cons, valuesOf_cons, ih hplaces, Entry.value?_setting, Part.value?]
  | case5 places o' v parts ih => rw [Entry.values_cons, valuesOf_cons, ih hplaces, Entry.value?_setting, Part.value?]
  | case6 places switch parts ih => rw [Entry.values_cons, valuesOf_cons, ih hplaces, Entry.value?, Part.value?]

theorem values_entries_of_place (hs : ∀ o : Valued, o.setting ≠ s) :
    Entry.values s (entries places parts) = Entry.values s (entriesBehind places (texts parts)) := by
  fun_induction entries places parts with
  | case1 =>
      rw [entriesBehind, texts, List.filterMap_nil, List.zip_nil_right, List.map_nil]
  | case2 text parts ih => exact ih
  | case3 place places text parts ih =>
      rw [Entry.values_cons, ih]
      exact (Entry.values_cons s (.value place text) (entriesBehind places (texts parts))).symm
  | case4 places o v parts ih =>
      rw [Entry.values_cons, ih, Entry.value?, if_neg (hs o)]
      rfl
  | case5 places o v parts ih =>
      rw [Entry.values_cons, ih, Entry.value?, if_neg (hs o)]
      rfl
  | case6 places switch parts ih => exact ih

theorem entriesBehind_append (places : List Setting) (before behind : List String) :
    entriesBehind places (before ++ behind) =
      entriesBehind places before ++ entriesBehind (places.drop before.length) behind := by
  induction before generalizing places with
  | nil => rw [entriesBehind, entriesBehind, List.zip_nil_right]; rfl
  | cons text before ih =>
      cases places with
      | nil => rfl
      | cons place places => exact congrArg (Entry.value place text :: ·) (ih places)

theorem values_entriesBehind (o : Valued) (hplaces : ∀ place ∈ places, place ≠ o.setting) (behind : List String) :
    Entry.values o.setting (entriesBehind places behind) = [] := by
  refine List.filterMap_eq_nil_iff.mpr fun e he => ?_
  obtain ⟨⟨place, text⟩, hmem, rfl⟩ := List.mem_map.mp he
  exact if_neg (hplaces place (List.of_mem_zip hmem).1)

theorem count_entries (places : List Setting) (parts : List Part) (s : Switch) :
    (entries places parts).count (.switch s) = parts.count (.switch s) := by
  fun_induction entries places parts with
  | case1 => rfl
  | case2 text parts ih => rw [ih, List.count_cons_of_ne]; exact Part.noConfusion
  | case3 place places text parts ih => simpa using ih
  | case4 places o v parts ih => simpa using ih
  | case5 places o v parts ih => simpa using ih
  | case6 places switch parts ih => simpa [List.count_cons] using ih

theorem count_entriesBehind (places : List Setting) (behind : List String) (s : Switch) :
    (entriesBehind places behind).count (.switch s) = 0 := by
  refine List.count_eq_zero.mpr fun h => ?_
  obtain ⟨x, -, hx⟩ := List.mem_map.mp h
  cases hx

theorem accepts_of_ne {v : String} (h : v ≠ "") (s : Setting) : s.accepts v = true := by
  cases s <;> simp [Setting.accepts, h]

theorem isAccepted_entries (hproper : ∀ p ∈ parts, p.IsProper) : ∀ e ∈ entries places parts, e.IsAccepted := by
  fun_induction entries places parts with
  | case1 => exact fun e he => absurd he List.not_mem_nil
  | case2 text parts ih => exact ih fun p hp => hproper p (List.mem_cons_of_mem _ hp)
  | case3 place places text parts ih =>
      refine List.forall_mem_cons.mpr ⟨?_, ih fun p hp => hproper p (List.mem_cons_of_mem _ hp)⟩
      exact accepts_of_ne (hproper _ List.mem_cons_self).1 place
  | case4 places o v parts ih =>
      refine List.forall_mem_cons.mpr ⟨?_, ih fun p hp => hproper p (List.mem_cons_of_mem _ hp)⟩
      have hv : o = .sourceMap → v ≠ "" := hproper _ List.mem_cons_self
      cases o with
      | sourceMap => exact accepts_of_ne (hv rfl) .sourceMap
      | className => rfl
      | compiler => rfl
      | logLevel => rfl
  | case5 places o v parts ih =>
      refine List.forall_mem_cons.mpr ⟨?_, ih fun p hp => hproper p (List.mem_cons_of_mem _ hp)⟩
      exact accepts_of_ne (hproper _ List.mem_cons_self).1 o.setting
  | case6 places switch parts ih =>
      exact List.forall_mem_cons.mpr ⟨trivial, ih fun p hp => hproper p (List.mem_cons_of_mem _ hp)⟩

theorem isAccepted_entriesBehind {behind : List String} (h : "" ∉ behind) :
    ∀ e ∈ entriesBehind places behind, e.IsAccepted := by
  intro e he
  obtain ⟨⟨place, text⟩, hmem, rfl⟩ := List.mem_map.mp he
  exact accepts_of_ne (fun heq => h (heq ▸ (List.of_mem_zip hmem).2)) place

end Parts

/-! ### What a command line asks for -/

/-- What is asked of the command: a source, perhaps an output file, and any of the options. -/
structure Wish where
  source : String
  outfile : Option String
  value? : Valued → Option String
  isOn : Switch → Bool

namespace Wish

variable {w : Wish} {es : List Entry}

/-- The texts of a wish, the source first. -/
def positionals (w : Wish) : List String :=
  w.source :: w.outfile.toList

/-- What comes of a wish: what is left out has its default. -/
def arguments (w : Wish) : Arguments where
  options :=
    { source := w.source
      output := w.outfile.getD "bf.java"
      className := w.value? .className
      compile := !w.isOn .noCompile
      sourceMap := w.value? .sourceMap }
  compiler := (w.value? .compiler).getD "javac"
  json := w.isOn .json
  logLevel := (w.value? .logLevel).getD "warn"

/-- The value of a wish for any setting. -/
def setting? (w : Wish) : Setting → Option String
  | .source => some w.source
  | .outfile => w.outfile
  | .className => w.value? .className
  | .compiler => w.value? .compiler
  | .sourceMap => w.value? .sourceMap
  | .logLevel => w.value? .logLevel

theorem setting?_setting (w : Wish) (o : Valued) : w.setting? o.setting = w.value? o := by
  cases o <;> rfl

/-- Entries that give what is wished, each thing once. -/
structure GivenBy (w : Wish) (es : List Entry) : Prop where
  values_eq : ∀ s, Entry.values s es = (w.setting? s).toList
  count_eq : ∀ s, es.count (.switch s) = if w.isOn s then 1 else 0

theorem GivenBy.not_clashes (h : w.GivenBy es) : ¬ Given.Clashes ⟨[], []⟩ es := by
  rintro (⟨s, hs⟩ | ⟨s, hs⟩)
  · rw [h.values_eq, show Given.listed ⟨[], []⟩ s = [] from rfl, List.nil_append] at hs
    cases hvalue : w.setting? s <;> simp [hvalue] at hs
  · rw [h.count_eq, show Given.times ⟨[], []⟩ s = 0 from rfl, Nat.zero_add] at hs
    cases hon : w.isOn s <;> simp [hon] at hs

theorem GivenBy.arguments_eq (h : w.GivenBy es) (hes : ∀ e ∈ es, e.IsAccepted) :
    (Given.takeAll ⟨[], []⟩ es).bind Arguments.ofGiven = .ok w.arguments := by
  rcases Given.takeAll_cases ⟨[], []⟩ hes with ⟨next, hnext, hadds⟩ | ⟨-, hclash⟩
  · have hvalue : ∀ s, next.value? s = w.setting? s := by
      intro s
      have hlisted := hadds.listed_eq s
      rw [h.values_eq, show Given.listed ⟨[], []⟩ s = [] from rfl, List.nil_append] at hlisted
      rw [← Option.head?_toList (o := next.value? s), ← Option.head?_toList (o := w.setting? s)]
      exact congrArg List.head? hlisted
    have hswitch : ∀ s, decide (s ∈ next.switches) = w.isOn s := by
      intro s
      have htimes := hadds.times_eq s
      rw [h.count_eq] at htimes
      by_cases hs : s ∈ next.switches <;> cases hon : w.isOn s <;> simp [Given.times, hs, hon] at htimes ⊢
    rw [hnext]
    show Arguments.ofGiven next = _
    simp only [Arguments.ofGiven, hvalue, hswitch, setting?]
    rfl
  · exact absurd hclash h.not_clashes

end Wish

/-- A part gives an option that is among the parts already. -/
def Part.Repeats (extra : Part) (parts : List Part) : Prop :=
  (∃ o v, extra.value? o = some v ∧ valuesOf o parts ≠ []) ∨ ∃ s, extra = .switch s ∧ .switch s ∈ parts

/-- The entries of parts and of texts behind a double dash. -/
def allEntries (parts : List Part) (behind : List String) : List Entry :=
  entries Arguments.places parts ++ entriesBehind (Arguments.places.drop (texts parts).length) behind

section AllEntries

variable {parts before after : List Part} {behind : List String} {extra : Part} {w : Wish}

theorem ne_setting_of_mem_places {place : Setting} (h : place ∈ Arguments.places) (o : Valued) : place ≠ o.setting := by
  rintro rfl
  cases o <;> exact absurd h (by decide)

theorem values_allEntries (o : Valued) : Entry.values o.setting (allEntries parts behind) = valuesOf o parts := by
  rw [allEntries, Entry.values_append, values_entries o fun place h => ne_setting_of_mem_places h o,
    values_entriesBehind o fun place h => ne_setting_of_mem_places (List.mem_of_mem_drop h) o, List.append_nil]

theorem values_allEntries_of_place {s : Setting} (hs : ∀ o : Valued, o.setting ≠ s) :
    Entry.values s (allEntries parts behind) =
      Entry.values s (entriesBehind Arguments.places (texts parts ++ behind)) := by
  rw [allEntries, Entry.values_append, values_entries_of_place hs, entriesBehind_append, Entry.values_append]

theorem count_allEntries (s : Switch) : (allEntries parts behind).count (.switch s) = parts.count (.switch s) := by
  rw [allEntries, List.count_append, count_entries, count_entriesBehind, Nat.add_zero]

theorem isAccepted_allEntries (hproper : ∀ p ∈ parts, p.IsProper) (hbehind : "" ∉ behind) :
    ∀ e ∈ allEntries parts behind, e.IsAccepted :=
  List.forall_mem_append.mpr ⟨isAccepted_entries hproper, isAccepted_entriesBehind hbehind⟩

theorem givenBy_allEntries (hvalues : ∀ o, valuesOf o parts = (w.value? o).toList)
    (hswitches : ∀ s, parts.count (.switch s) = if w.isOn s then 1 else 0)
    (htexts : texts parts ++ behind = w.positionals) : w.GivenBy (allEntries parts behind) := by
  refine ⟨fun s => ?_, fun s => (count_allEntries s).trans (hswitches s)⟩
  have hoption : ∀ o : Valued, Entry.values o.setting (allEntries parts behind) = (w.setting? o.setting).toList := by
    intro o
    rw [values_allEntries, hvalues, w.setting?_setting]
  have hplace : (∀ o : Valued, o.setting ≠ s) →
      Entry.values s (allEntries parts behind) = Entry.values s (entriesBehind Arguments.places w.positionals) := by
    intro hs
    rw [values_allEntries_of_place hs, htexts]
  cases s with
  | source =>
      rw [hplace fun o => by cases o <;> exact Setting.noConfusion]
      cases hout : w.outfile <;> simp [Wish.positionals, hout, entriesBehind, Arguments.places, Entry.values,
        Entry.value?, Wish.setting?]
  | outfile =>
      rw [hplace fun o => by cases o <;> exact Setting.noConfusion]
      cases hout : w.outfile <;> simp [Wish.positionals, hout, entriesBehind, Arguments.places, Entry.values,
        Entry.value?, Wish.setting?]
  | className => exact hoption .className
  | compiler => exact hoption .compiler
  | sourceMap => exact hoption .sourceMap
  | logLevel => exact hoption .logLevel

theorem texts_insert (h : extra.text? = none) : texts (before ++ extra :: after) = texts (before ++ after) := by
  rw [texts, texts, List.filterMap_append, List.filterMap_cons_none h, ← List.filterMap_append]

theorem Part.Repeats.text?_eq_none (h : extra.Repeats parts) : extra.text? = none := by
  rcases h with ⟨o, v, hv, -⟩ | ⟨s, rfl, -⟩
  · cases extra with
    | plain text => cases hv
    | attached o' v' => rfl
    | detached o' v' => rfl
    | switch s => rfl
  · rfl

/-- A second occurrence anywhere is given again. -/
theorem clashes_of_repeats (h : extra.Repeats (before ++ after)) :
    Given.Clashes ⟨[], []⟩ (allEntries (before ++ extra :: after) behind) := by
  rcases h with ⟨o, v, hv, hgiven⟩ | ⟨s, rfl, hmem⟩
  · refine Or.inl ⟨o.setting, ?_⟩
    have hperm : (valuesOf o (before ++ extra :: after)).Perm (valuesOf o (extra :: (before ++ after))) :=
      List.perm_middle.filterMap _
    have hlength : (valuesOf o (before ++ extra :: after)).length = (valuesOf o (before ++ after)).length + 1 := by
      rw [hperm.length_eq, valuesOf_cons, hv, Option.toList_some, List.singleton_append, List.length_cons]
    have hpos := List.length_pos_iff.mpr hgiven
    rw [List.length_append, values_allEntries, hlength]
    omega
  · refine Or.inr ⟨s, ?_⟩
    have hcount : (before ++ .switch s :: after).count (.switch s) = (before ++ after).count (.switch s) + 1 := by
      rw [List.perm_middle.count_eq, List.count_cons_self]
    have hpos := List.count_pos_iff.mpr hmem
    rw [count_allEntries, hcount]
    omega

theorem parse_of_entries (hproper : ∀ p ∈ parts, p.IsProper) (htexts : (texts parts).length + behind.length ≤ 2) :
    Arguments.parse (commandLine parts ++ "--" :: behind) =
      (Given.takeAll ⟨[], []⟩ (allEntries parts behind)).bind Arguments.ofGiven :=
  Arguments.parse_commandLine_doubleDash hproper htexts

theorem parse_of_entries_nil (hproper : ∀ p ∈ parts, p.IsProper) (htexts : (texts parts).length ≤ 2) :
    Arguments.parse (commandLine parts) =
      (Given.takeAll ⟨[], []⟩ (allEntries parts [])).bind Arguments.ofGiven := by
  rw [Arguments.parse_commandLine hproper htexts, allEntries, entriesBehind, List.zip_nil_right, List.map_nil,
    List.append_nil]

end AllEntries

namespace Arguments

theorem length_positionals_le (w : Wish) : w.positionals.length ≤ 2 := by
  rw [Wish.positionals]
  cases w.outfile with
  | none => exact Nat.le_succ 1
  | some outfile => exact Nat.le_refl 2

/-- A command line that gives each thing once is read as what it asks for, whatever the order of its parts and the form
of its values, and whether its texts stand among the options or behind a double dash. An option that is given a second
time, anywhere in front of the double dash, is a conflict. -/
theorem parse_order_independent (w : Wish) (parts : List Part) (hproper : ∀ p ∈ parts, p.IsProper)
    (hvalues : ∀ o, valuesOf o parts = (w.value? o).toList)
    (hswitches : ∀ s, parts.count (.switch s) = if w.isOn s then 1 else 0)
    (hpositionals : "" ∉ w.positionals) :
    (texts parts = w.positionals → parse (commandLine parts) = .ok w.arguments) ∧
    (∀ behind, texts parts ++ behind = w.positionals →
      parse (commandLine parts ++ "--" :: behind) = .ok w.arguments) ∧
    w.arguments.options.resolvedClassName =
      (match w.value? .className with
      | some name => ⟨name⟩
      | none => ⟨String.ofList (Path.stem (w.outfile.getD "bf.java").toList)⟩) ∧
    ∀ before extra after, parts = before ++ after → extra.IsProper → extra.Repeats parts →
      (texts parts = w.positionals → parse (commandLine (before ++ extra :: after)) = .error .conflict) ∧
      ∀ behind, texts parts ++ behind = w.positionals →
        parse (commandLine (before ++ extra :: after) ++ "--" :: behind) = .error .conflict := by
  have hlength := length_positionals_le w
  refine ⟨fun htexts => ?_, fun behind htexts => ?_, ?_, ?_⟩
  · rw [parse_of_entries_nil hproper (by rw [htexts]; exact hlength)]
    have htexts' : texts parts ++ [] = w.positionals := by rw [List.append_nil, htexts]
    have hgiven := givenBy_allEntries hvalues hswitches htexts'
    exact hgiven.arguments_eq (isAccepted_allEntries hproper List.not_mem_nil)
  · have hbehind : "" ∉ behind := fun h => hpositionals (htexts ▸ List.mem_append_right _ h)
    rw [parse_of_entries hproper (by rw [← List.length_append, htexts]; exact hlength)]
    exact (givenBy_allEntries hvalues hswitches htexts).arguments_eq (isAccepted_allEntries hproper hbehind)
  · show (match w.value? .className with
      | some name => (⟨name⟩ : Java.ClassName)
      | none => .ofPath (w.outfile.getD "bf.java")) = _
    rfl
  · rintro before extra after rfl hextra hrepeats
    have htextsEq : texts (before ++ extra :: after) = texts (before ++ after) :=
      texts_insert hrepeats.text?_eq_none
    have hproper' : ∀ p ∈ before ++ extra :: after, p.IsProper := by
      rw [List.forall_mem_append] at hproper ⊢
      exact ⟨hproper.1, List.forall_mem_cons.mpr ⟨hextra, hproper.2⟩⟩
    refine ⟨fun htexts => ?_, fun behind htexts => ?_⟩
    · rw [parse_of_entries_nil hproper' (by rw [htextsEq, htexts]; exact hlength),
        Given.takeAll_of_clashes (isAccepted_allEntries hproper' List.not_mem_nil) (clashes_of_repeats hrepeats)]
      rfl
    · have hbehind : "" ∉ behind := fun h => hpositionals (htexts ▸ List.mem_append_right _ h)
      rw [parse_of_entries hproper' (by rw [htextsEq, ← List.length_append, htexts]; exact hlength),
        Given.takeAll_of_clashes (isAccepted_allEntries hproper' hbehind) (clashes_of_repeats hrepeats)]
      rfl

/-- An empty class name, a path with an equals sign in it, and a dash for the output; the switch once and twice. -/
theorem parse_order_independent_mixed :
    parse ["--json", "--class-name=", "a.bf", "--source-map", "m=1", "-"] =
        .ok ⟨⟨"a.bf", "-", some "", true, some "m=1"⟩, "javac", true, "warn"⟩ ∧
      parse ["--json", "--class-name=", "--json", "--source-map", "m=1", "--", "a.bf", "-"] = .error .conflict := by
  let w : Wish :=
    { source := "a.bf"
      outfile := some "-"
      value? := fun o => if o = .className then some "" else if o = .sourceMap then some "m=1" else none
      isOn := fun s => s = .json }
  let named : List Part := [.attached .className "", .plain "a.bf", .detached .sourceMap "m=1", .plain "-"]
  let only : List Part := [.switch .json, .attached .className "", .detached .sourceMap "m=1"]
  have hnamed : ∀ p ∈ Part.switch .json :: named, p.IsProper := by
    simp [named, Part.IsProper, IsPlain]
  have honly : ∀ p ∈ only, p.IsProper := by
    simp [only, Part.IsProper, IsPlain]
  have hpositionals : "" ∉ w.positionals := by decide
  obtain ⟨hread, -⟩ := parse_order_independent w (.switch .json :: named) hnamed
    (fun o => by cases o <;> rfl) (fun s => by cases s <;> rfl) hpositionals
  obtain ⟨-, -, -, hconflict⟩ := parse_order_independent w only honly
    (fun o => by cases o <;> rfl) (fun s => by cases s <;> rfl) hpositionals
  have htwice := (hconflict [.switch .json, .attached .className ""] (.switch .json) [.detached .sourceMap "m=1"] rfl
    trivial (Or.inr ⟨.json, rfl, by decide⟩)).2 ["a.bf", "-"] rfl
  exact ⟨hread rfl, htwice⟩

end Arguments

end TapeToJava.Command
