import TapeToJava.Command.Arguments

/-! A command line in parts: texts without a dash, options with their values in either form, and switches. Reading a
part comes to taking in one entry, a value for a setting or a switch that is turned on. Where the value is an argument
of its own, or the text is taken for a place, the entry is checked only later; but whatever comes next in a proper
command line checks it first, so nothing of this delay is left in the result. -/

namespace TapeToJava.Command

/-- An option that takes a value. -/
inductive Valued where
  | className
  | compiler
  | sourceMap
  | logLevel
  deriving DecidableEq, Repr

namespace Valued

def setting : Valued → Setting
  | className => .className
  | compiler => .compiler
  | sourceMap => .sourceMap
  | logLevel => .logLevel

def name : Valued → String
  | className => "class-name"
  | compiler => "javac"
  | sourceMap => "source-map"
  | logLevel => "log-level"

theorem optionKind?_name (o : Valued) : optionKind? o.name = some (.setting o.setting) := by
  cases o <;> rfl

theorem setting_injective {o o' : Valued} (h : o.setting = o'.setting) : o = o' := by
  cases o <;> cases o' <;> first | rfl | cases h

end Valued

namespace Switch

def name : Switch → String
  | noCompile => "no-compile"
  | json => "json"

theorem optionKind?_name (s : Switch) : optionKind? s.name = some (.switch s) := by
  cases s <;> rfl

end Switch

/-- A text that does not look like an option: it starts with no dash, or it is just a dash. -/
def IsPlain (text : String) : Prop :=
  text = "-" ∨ text.toList.head? ≠ some '-'

/-- A part of a command line in front of a double dash. -/
inductive Part where
  | plain (text : String)
  /-- An option with its value behind an equals sign. -/
  | attached (o : Valued) (value : String)
  /-- An option with its value as the argument behind it. -/
  | detached (o : Valued) (value : String)
  | switch (s : Switch)
  deriving DecidableEq, Repr

namespace Part

/-- The arguments of a part. -/
def args : Part → List String
  | plain text => [text]
  | attached o value => ["--" ++ o.name ++ "=" ++ value]
  | detached o value => ["--" ++ o.name, value]
  | switch s => ["--" ++ s.name]

/-- A path is not empty, and an argument that is a text or a value does not look like an option. -/
def IsProper : Part → Prop
  | plain text => text ≠ "" ∧ IsPlain text
  | attached o value => o = .sourceMap → value ≠ ""
  | detached _ value => value ≠ "" ∧ IsPlain value
  | switch _ => True

end Part

/-- The arguments of a command line. -/
def commandLine (parts : List Part) : List String :=
  parts.flatMap Part.args

/-! ### The shape of the arguments -/

namespace Argument

theorem ofText_of_isPlain {text : String} (h : IsPlain text) : ofText text = .plain text := by
  rw [ofText]
  rcases h with rfl | h
  · rfl
  · cases htext : text.toList with
    | nil => rfl
    | cons c cs =>
        have hc : c ≠ '-' := fun heq => h (by rw [htext, heq]; rfl)
        split
        · rename_i heq
          exact absurd (List.cons.inj heq).1 hc
        · rename_i heq
          exact absurd (List.cons.inj heq).1 hc
        · rename_i heq
          exact absurd (List.cons.inj heq).1 hc
        · rfl

section Long

variable {name rest : String}

theorem ofText_dashes (hname : name ≠ "") (hequals : '=' ∉ name.toList)
    (hrest : rest.toList.takeWhile (· != '=') = []) :
    ofText ("--" ++ name ++ rest) = .long name (attachedValue rest.toList) := by
  have htext : ("--" ++ name ++ rest).toList = '-' :: '-' :: (name.toList ++ rest.toList) := by
    simp only [String.toList_append, List.append_assoc]
    rfl
  have hall : ∀ c ∈ name.toList, (c != '=') = true := fun c hc => bne_iff_ne.mpr fun heq => hequals (heq ▸ hc)
  have hdrop : rest.toList.dropWhile (· != '=') = rest.toList := by
    rw [← List.nil_append (List.dropWhile _ _), ← hrest, List.takeWhile_append_dropWhile]
  have htake : (name.toList ++ rest.toList).takeWhile (· != '=') = name.toList := by
    rw [List.takeWhile_append_of_pos hall, hrest, List.append_nil]
  have hdrop' : (name.toList ++ rest.toList).dropWhile (· != '=') = rest.toList := by
    rw [List.dropWhile_append_of_pos hall, hdrop]
  rw [ofText, htext]
  cases hlist : name.toList ++ rest.toList with
  | nil => exact absurd (String.toList_eq_nil_iff.mp (List.append_eq_nil_iff.mp hlist).1) hname
  | cons c cs =>
      show Argument.long _ _ = _
      rw [← hlist, htake, hdrop', String.ofList_toList]

theorem ofText_name (hname : name ≠ "") (hequals : '=' ∉ name.toList) : ofText ("--" ++ name) = .long name none := by
  rw [← String.append_empty (s := "--" ++ name), ofText_dashes hname hequals rfl]
  rfl

theorem ofText_name_value (hname : name ≠ "") (hequals : '=' ∉ name.toList) (value : String) :
    ofText ("--" ++ name ++ "=" ++ value) = .long name (some value) := by
  have htext : ("=" ++ value).toList = '=' :: value.toList := String.toList_append
  rw [String.append_assoc, ofText_dashes hname hequals (by rw [htext]; rfl), htext, attachedValue,
    String.ofList_toList]

end Long

end Argument

theorem Valued.ofText_name (o : Valued) : Argument.ofText ("--" ++ o.name) = .long o.name none := by
  cases o <;> exact Argument.ofText_name (by decide) (by decide)

theorem Valued.ofText_name_value (o : Valued) (value : String) :
    Argument.ofText ("--" ++ o.name ++ "=" ++ value) = .long o.name (some value) := by
  cases o <;> exact Argument.ofText_name_value (by decide) (by decide) value

theorem Switch.ofText_name (s : Switch) : Argument.ofText ("--" ++ s.name) = .long s.name none := by
  cases s <;> exact Argument.ofText_name (by decide) (by decide)

/-! ### What a part comes to -/

/-- A value for a setting, or a switch that is turned on. -/
inductive Entry where
  | value (s : Setting) (v : String)
  | switch (s : Switch)
  deriving DecidableEq, Repr

/-- Takes in an entry. -/
def Given.take (g : Given) : Entry → Except UsageError Given
  | .value s v => g.settle (some ⟨s, some v⟩)
  | .switch s => g.turnOn s

/-- Takes in entries, one after the other. -/
def Given.takeAll : Given → List Entry → Except UsageError Given
  | g, [] => .ok g
  | g, e :: es => (g.take e).bind fun next => next.takeAll es

/-- The text of a part without a dash. -/
def Part.text? : Part → Option String
  | plain text => some text
  | attached _ _ => none
  | detached _ _ => none
  | switch _ => none

/-- The texts among the parts of a command line. -/
def texts (parts : List Part) : List String :=
  parts.filterMap Part.text?

/-- The entries of a command line; the texts are for the places that are still open, in order. -/
def entries : List Setting → List Part → List Entry
  | _, [] => []
  | [], .plain _ :: parts => entries [] parts
  | s :: places, .plain text :: parts => .value s text :: entries places parts
  | places, .attached o v :: parts => .value o.setting v :: entries places parts
  | places, .detached o v :: parts => .value o.setting v :: entries places parts
  | places, .switch s :: parts => .switch s :: entries places parts

/-- The entries of texts behind a double dash. -/
def entriesBehind (places : List Setting) (behind : List String) : List Entry :=
  (places.zip behind).map fun (s, text) => .value s text

theorem bind_ok (x : Except UsageError Given) : x.bind .ok = x := by
  cases x <;> rfl

theorem bind_bind {α β γ : Type} (x : Except UsageError α) (f : α → Except UsageError β)
    (k : β → Except UsageError γ) : (x.bind f).bind k = x.bind fun a => (f a).bind k := by
  cases x <;> rfl

namespace Reading

/-- Reads the last arguments, and checks the value that is pending in the end. -/
def complete (r : Reading) (args : List String) : Except UsageError Given :=
  (r.run args).bind fun last => last.given.settle last.pending

theorem complete_cons (r : Reading) (arg : String) (args : List String) :
    r.complete (arg :: args) = (r.step arg).bind fun next => next.complete args := by
  rw [complete, run]
  cases r.step arg <;> rfl

/-- Nothing is pending. -/
def between (g : Given) (places : List Setting) (escaped : Bool) : Reading :=
  ⟨g, none, places, escaped⟩

/-- A value is pending. -/
def behind (g : Given) (s : Setting) (v : String) (places : List Setting) (escaped : Bool) : Reading :=
  ⟨g, some ⟨s, some v⟩, places, escaped⟩

/-- Before anything else comes of these arguments, a pending value is checked. -/
def ChecksPending (places : List Setting) (escaped : Bool) (args : List String) : Prop :=
  ∀ g s v, (behind g s v places escaped).complete args =
    (g.take (.value s v)).bind fun next => (between next places escaped).complete args

section Step

variable {g : Given} {places : List Setting} {escaped : Bool} {arg name text : String} {value : Option String}
  {kind : OptionKind} {s : Setting} {v : String} {rest : List String}

theorem step_option {r : Reading} (hr : r.escaped = false) (hshape : Argument.ofText arg = .long name value)
    (hkind : optionKind? name = some kind) : r.step arg = r.option kind value := by
  rw [step, hr, hshape]
  simp only [Bool.false_eq_true, if_false, hkind]

theorem option_behind (hfits : value = none ∨ ∃ setting, kind = .setting setting) (g : Given) (s : Setting)
    (v : String) :
    (behind g s v places escaped).option kind value =
      (g.take (.value s v)).bind fun next => (between next places escaped).option kind value := by
  rcases hfits with rfl | ⟨setting, rfl⟩
  · cases kind <;> rfl
  · cases value <;> rfl

theorem checksPending_nil : ChecksPending places escaped [] :=
  fun _ _ _ => (bind_ok _).symm

theorem checksPending_of_step
    (h : ∀ g s v, (behind g s v places escaped).step arg =
      (g.take (.value s v)).bind fun next => (between next places escaped).step arg) :
    ChecksPending places escaped (arg :: rest) := by
  intro g s v
  rw [complete_cons, h, bind_bind]
  congr 1
  funext next
  rw [complete_cons]

theorem checksPending_option (hshape : Argument.ofText arg = .long name value) (hkind : optionKind? name = some kind)
    (hfits : value = none ∨ ∃ setting, kind = .setting setting) : ChecksPending places false (arg :: rest) := by
  refine checksPending_of_step fun g s v => ?_
  rw [step_option rfl hshape hkind, option_behind hfits]
  congr 1
  funext next
  rw [step_option rfl hshape hkind]

theorem step_text {r : Reading} (htext : r.escaped = true ∨ IsPlain text)
    (hpending : ∀ s, r.pending ≠ some ⟨s, none⟩) : r.step text = r.positional text := by
  rw [step]
  cases hescaped : r.escaped with
  | true => rfl
  | false =>
      have hplain : IsPlain text := htext.resolve_left (by rw [hescaped]; exact Bool.false_ne_true)
      simp only [Bool.false_eq_true, if_false, Argument.ofText_of_isPlain hplain]

theorem checksPending_text {place : Setting} (htext : escaped = true ∨ IsPlain text) :
    ChecksPending (place :: places) escaped (text :: rest) := by
  refine checksPending_of_step fun g s v => ?_
  rw [step_text htext (fun s => by simp [behind])]
  show (g.take (.value s v)).bind _ = _
  congr 1
  funext next
  rw [step_text htext (fun s => by simp [between])]
  rfl

theorem option_attached (g : Given) (places : List Setting) (escaped : Bool) (s : Setting) (v : String) :
    (between g places escaped).option (.setting s) (some v) =
      (g.take (.value s v)).bind fun next => .ok (between next places escaped) := rfl

theorem option_switch (g : Given) (places : List Setting) (escaped : Bool) (s : Switch) :
    (between g places escaped).option (.switch s) none =
      (g.take (.switch s)).bind fun next => .ok (between next places escaped) := rfl

theorem complete_detached {o : Valued} (hv : IsPlain v) :
    (between g places false).complete (("--" ++ o.name) :: v :: rest) =
      (behind g o.setting v places false).complete rest := by
  rw [complete_cons, step_option rfl o.ofText_name o.optionKind?_name]
  show (Reading.mk g (some ⟨o.setting, none⟩) places false).complete (v :: rest) = _
  rw [complete_cons, step, Argument.ofText_of_isPlain hv]
  rfl

theorem complete_text {place : Setting} (htext : escaped = true ∨ IsPlain text) :
    (between g (place :: places) escaped).complete (text :: rest) =
      (behind g place text places escaped).complete rest := by
  rw [complete_cons, step_text htext (fun s => by simp [between])]
  rfl

end Step

section Parts

variable {places : List Setting} {behindDash rest : List String} {parts : List Part}

theorem checksPending_behindDash (h : behindDash.length ≤ places.length) : ChecksPending places true behindDash := by
  cases behindDash with
  | nil => exact checksPending_nil
  | cons text more =>
      cases places with
      | nil => cases h
      | cons place places => exact checksPending_text (Or.inl rfl)

/-- Behind a double dash every text is for a place. -/
theorem complete_behindDash (g : Given) (h : behindDash.length ≤ places.length) :
    (between g places true).complete behindDash = g.takeAll (entriesBehind places behindDash) := by
  induction behindDash generalizing g places with
  | nil =>
      rw [entriesBehind, List.zip_nil_right]
      rfl
  | cons text more ih =>
      cases places with
      | nil => cases h
      | cons place places =>
          have hmore : more.length ≤ places.length := Nat.le_of_succ_le_succ h
          rw [complete_text (Or.inl rfl), checksPending_behindDash hmore]
          show _ = (g.take (.value place text)).bind _
          congr 1
          funext next
          exact ih next hmore

theorem checksPending_doubleDash (h : behindDash.length ≤ places.length) :
    ChecksPending places false ("--" :: behindDash) := by
  intro g s v
  exact checksPending_behindDash h g s v

theorem checksPending_commandLine (hproper : ∀ p ∈ parts, p.IsProper) (htexts : (texts parts).length ≤ places.length)
    (hrest : ChecksPending (places.drop (texts parts).length) false rest) :
    ChecksPending places false (commandLine parts ++ rest) := by
  cases parts with
  | nil => exact hrest
  | cons p parts =>
      have hp := hproper p List.mem_cons_self
      cases p with
      | plain text =>
          cases places with
          | nil => cases htexts
          | cons place places => exact checksPending_text (Or.inr hp.2)
      | attached o v => exact checksPending_option (o.ofText_name_value v) o.optionKind?_name (Or.inr ⟨_, rfl⟩)
      | detached o v => exact checksPending_option o.ofText_name o.optionKind?_name (Or.inl rfl)
      | switch s => exact checksPending_option s.ofText_name s.optionKind?_name (Or.inl rfl)

/-- Reading the parts of a command line comes to taking in their entries, whatever follows. -/
theorem complete_commandLine (g : Given) (hproper : ∀ p ∈ parts, p.IsProper)
    (htexts : (texts parts).length ≤ places.length)
    (hrest : ChecksPending (places.drop (texts parts).length) false rest) :
    (between g places false).complete (commandLine parts ++ rest) =
      (g.takeAll (entries places parts)).bind fun next =>
        (between next (places.drop (texts parts).length) false).complete rest := by
  induction parts generalizing g places with
  | nil => rfl
  | cons p parts ih =>
      have hp := hproper p List.mem_cons_self
      have hparts : ∀ q ∈ parts, q.IsProper := fun q hq => hproper q (List.mem_cons_of_mem p hq)
      cases p with
      | plain text =>
          cases places with
          | nil => cases htexts
          | cons place places =>
              have htexts' : (texts parts).length ≤ places.length := Nat.le_of_succ_le_succ htexts
              have hchecks := checksPending_commandLine hparts htexts' hrest
              show (between g (place :: places) false).complete (text :: (commandLine parts ++ rest)) = _
              rw [complete_text (Or.inr hp.2), hchecks, entries, Given.takeAll, bind_bind]
              congr 1
              funext next
              exact ih next hparts htexts' hrest
      | attached o v =>
          show (between g places false).complete (("--" ++ o.name ++ "=" ++ v) :: (commandLine parts ++ rest)) = _
          rw [complete_cons, step_option rfl (o.ofText_name_value v) o.optionKind?_name, option_attached, entries,
            Given.takeAll, bind_bind, bind_bind]
          congr 1
          funext next
          exact ih next hparts htexts hrest
      | detached o v =>
          have hchecks := checksPending_commandLine hparts htexts hrest
          show (between g places false).complete (("--" ++ o.name) :: v :: (commandLine parts ++ rest)) = _
          rw [complete_detached hp.2, hchecks, entries, Given.takeAll, bind_bind]
          congr 1
          funext next
          exact ih next hparts htexts hrest
      | switch s =>
          show (between g places false).complete (("--" ++ s.name) :: (commandLine parts ++ rest)) = _
          rw [complete_cons, step_option rfl s.ofText_name s.optionKind?_name, option_switch, entries,
            Given.takeAll, bind_bind, bind_bind]
          congr 1
          funext next
          exact ih next hparts htexts hrest

end Parts

end Reading

theorem Given.takeAll_append (g : Given) (es fs : List Entry) :
    g.takeAll (es ++ fs) = (g.takeAll es).bind fun next => next.takeAll fs := by
  induction es generalizing g with
  | nil => rfl
  | cons e es ih =>
      rw [List.cons_append, takeAll, takeAll, bind_bind]
      congr 1
      funext next
      exact ih next

namespace Arguments

open Reading

variable {parts : List Part} {behindDash : List String}

/-- The places for texts, the source first. -/
def places : List Setting := [.source, .outfile]

theorem parse_eq (args : List String) : parse args = ((between ⟨[], []⟩ places false).complete args).bind ofGiven := by
  rw [parse, complete]
  show (start.run args).bind _ = ((start.run args).bind _).bind _
  rw [bind_bind]
  rfl

theorem parse_commandLine (hproper : ∀ p ∈ parts, p.IsProper) (htexts : (texts parts).length ≤ 2) :
    parse (commandLine parts) = (Given.takeAll ⟨[], []⟩ (entries places parts)).bind ofGiven := by
  have hplaces : (texts parts).length ≤ places.length := htexts
  have hcomplete := complete_commandLine ⟨[], []⟩ hproper hplaces checksPending_nil
  rw [List.append_nil] at hcomplete
  rw [parse_eq, hcomplete]
  congr 1
  exact bind_ok _

/-- Texts behind a double dash are for the places that are left. -/
theorem parse_commandLine_doubleDash (hproper : ∀ p ∈ parts, p.IsProper)
    (htexts : (texts parts).length + behindDash.length ≤ 2) :
    parse (commandLine parts ++ "--" :: behindDash) =
      (Given.takeAll ⟨[], []⟩
        (entries places parts ++ entriesBehind (places.drop (texts parts).length) behindDash)).bind ofGiven := by
  have hplaces : places.length = 2 := rfl
  have hleft : behindDash.length ≤ (places.drop (texts parts).length).length := by
    rw [List.length_drop]
    omega
  have hcomplete := complete_commandLine ⟨[], []⟩ hproper (by omega : (texts parts).length ≤ places.length)
    (checksPending_doubleDash hleft)
  rw [parse_eq, hcomplete, Given.takeAll_append]
  congr 2
  funext next
  exact complete_behindDash next hleft

end Arguments

end TapeToJava.Command
