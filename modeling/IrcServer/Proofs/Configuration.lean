import IrcServer.Settings
import Mathlib.Data.List.Basic

namespace IrcServer

/-! Where settings come from.

Each setting has a name, and the first directive of that name gives it, wherever it stands and
whatever stands around it.  The settings are read in a fixed order, so that of several directives
that are wrong always the same one is reported. -/

namespace Document

/-- Documents that differ in nothing that a reader of first directives finds under these names. -/
inductive Rearranged (names : List Text) : List Directive → List Directive → Prop where
  | refl (document : List Directive) : Rearranged names document document
  | symm {left right : List Directive} (rearranged : Rearranged names left right) :
      Rearranged names right left
  | trans {left middle right : List Directive} (first : Rearranged names left middle)
      (second : Rearranged names middle right) : Rearranged names left right
  /-- Directives of different names change places. -/
  | swapped {first second : Directive} (front back : List Directive)
      (differ : first.name ≠ second.name) :
      Rearranged names (front ++ first :: second :: back) (front ++ second :: first :: back)
  /-- A directive or a block of another name is added anywhere. -/
  | added {directive : Directive} (front back : List Directive)
      (unknown : directive.name ∉ names) :
      Rearranged names (front ++ back) (front ++ directive :: back)
  /-- A directive is added after one of the same name. -/
  | repeated {first directive : Directive} (front back : List Directive) (earlier : first ∈ front)
      (same : first.name = directive.name) :
      Rearranged names (front ++ back) (front ++ directive :: back)

/-- The parameters of the first directive of a name. -/
def paramsOf? (document : List Directive) (name : Text) : Option (List Text) :=
  (find? document name).map Directive.params

theorem find?_append (front back : List Directive) (name : Text) :
    find? (front ++ back) name = (find? front name).or (find? back name) :=
  List.find?_append

theorem find?_cons (directive : Directive) (rest : List Directive) (name : Text) :
    find? (directive :: rest) name =
      if directive.name = name then some directive else find? rest name := by
  unfold find?
  by_cases named : directive.name = name
  · rw [List.find?_cons_of_pos (by simpa using named), if_pos named]
  · rw [List.find?_cons_of_neg (by simpa using named), if_neg named]

theorem isSome_find? {document : List Directive} {directive : Directive}
    (member : directive ∈ document) : (find? document directive.name).isSome = true := by
  rw [find?, List.find?_isSome]
  exact ⟨directive, member, decide_eq_true rfl⟩

/-- The same first directives are found under the names. -/
theorem Rearranged.find?_eq {names : List Text} {left right : List Directive}
    (rearranged : Rearranged names left right) {name : Text} (known : name ∈ names) :
    find? left name = find? right name := by
  induction rearranged with
  | refl => rfl
  | symm _ inductionHypothesis => exact inductionHypothesis.symm
  | trans _ _ first second => exact first.trans second
  | @swapped first second front back differ =>
      simp only [find?_append, find?_cons]
      by_cases here : first.name = name
      · have there : second.name ≠ name := fun there => differ (here.trans there.symm)
        rw [if_pos here, if_neg there, if_pos here]
      · rw [if_neg here, if_neg here]
  | @added directive front back unknown =>
      have apart : directive.name ≠ name := fun same => unknown (same ▸ known)
      rw [find?_append, find?_append, find?_cons, if_neg apart]
  | @repeated first directive front back earlier same =>
      rw [find?_append, find?_append, find?_cons]
      split
      · rename_i named
        have found := isSome_find? earlier
        rw [same, named] at found
        rw [Option.or_of_isSome found, Option.or_of_isSome found]
      · rfl

end Document

namespace Settings

/-- The settings in the order in which they are read, each with the texts that can be its value. -/
def readers : List (Text × (Text → Bool)) :=
  [("listen", fun text => (SocketAddress.parse? text).isSome),
    ("workers", fun text => (number? text).isSome),
    ("domain", fun _ => true),
    ("password", fun _ => true),
    ("motd_file", fun _ => true),
    ("channellen", fun text => (number? text).isSome),
    ("nicklen", fun text => (number? text).isSome)]

def names : List Text :=
  readers.map Prod.fst

/-- What is wrong with the first directive of a name. -/
def faultOf? (document : List Directive) (name : Text) (isValue : Text → Bool) :
    Option SettingsError :=
  match Document.paramsOf? document name with
  | none => none
  | some [] => some (.missingValue name)
  | some (param :: _) => if isValue param then none else some (.badValue name param)

/-- All that is wrong with the settings of a document, in the order in which they are read. -/
def faults (document : List Directive) : List SettingsError :=
  readers.filterMap fun reader => faultOf? document reader.1 reader.2

/-- What the first directive of a name gives. -/
def given? (document : List Directive) (name : Text) (read : Text → Option α) : Option α :=
  ((Document.paramsOf? document name).bind List.head?).bind read

/-- The settings that a document gives, and the default ones for the rest. -/
def filled (host : Text) (document : List Directive) : Settings :=
  let default := default host
  { listen := (given? document "listen" SocketAddress.parse?).getD default.listen
    workers := (given? document "workers" number?).getD default.workers
    domain := (given? document "domain" some).getD default.domain
    password := (given? document "password" some).getD default.password
    motdFile := given? document "motd_file" some
    channelLimit := (given? document "channellen" number?).getD default.channelLimit
    nickLimit := (given? document "nicklen" number?).getD default.nickLimit }

/-- An outcome that a fault comes before. -/
def after (fault? : Option SettingsError) (outcome : Except SettingsError α) :
    Except SettingsError α :=
  match fault? with
  | some error => .error error
  | none => outcome

theorem after_or (first second : Option SettingsError) (outcome : Except SettingsError α) :
    after (first.or second) outcome = after first (after second outcome) := by
  cases first <;> rfl

/-- Lengths of zero are wrong for all names. -/
def checked (settings : Settings) : Except SettingsError Settings :=
  if settings.channelLimit = 0 ∨ settings.nickLimit = 0 then
    .error (.badValue "nicklen/channellen" "0")
  else .ok settings

theorem value_bind (document : List Directive) (name : Text) (read : Text → Option α)
    (fallback : α) (next : α → Except SettingsError β) :
    (value document name read fallback >>= next) =
      after (faultOf? document name fun text => (read text).isSome)
        (next ((given? document name read).getD fallback)) := by
  unfold value faultOf? given? Document.paramsOf?
  cases Document.find? document name with
  | none => rfl
  | some directive =>
      dsimp only [Option.map_some, Option.bind_some]
      cases directive.params with
      | nil => rfl
      | cons param rest =>
          rcases Option.eq_none_or_eq_some (read param) with failed | ⟨value, parsed⟩
          · simp [failed, after, bind, Except.bind]
          · simp [parsed, after, bind, Except.bind]

theorem head?_faults (document : List Directive) :
    (faults document).head? =
      readers.foldr (fun reader later => (faultOf? document reader.1 reader.2).or later) none := by
  unfold faults
  induction readers with
  | nil => rfl
  | cons reader rest inductionHypothesis =>
      rw [List.foldr_cons, ← inductionHypothesis, List.filterMap_cons]
      cases faultOf? document reader.1 reader.2 <;> rfl

/-- The first fault is the outcome.  Without one the outcome is what the document gives, unless that
holds a length of zero. -/
theorem ofDocument_eq (host : Text) (document : List Directive) :
    ofDocument host document = after (faults document).head? (checked (filled host document)) := by
  -- This setting has no default, and is read as an option that is there.
  have motd : (given? document "motd_file" fun file => some (some file)).getD
      (default host).motdFile = given? document "motd_file" some := by
    unfold given?
    cases (Document.paramsOf? document "motd_file").bind List.head? <;> rfl
  unfold ofDocument
  simp only [value_bind, motd, head?_faults, readers, List.foldr_cons, List.foldr_nil, after_or]
  rfl

theorem ofDocument_congr (host : Text) {left right : List Directive}
    (same : ∀ name ∈ names, Document.paramsOf? left name = Document.paramsOf? right name) :
    ofDocument host left = ofDocument host right := by
  have given : ∀ {α : Type} (name : Text) (read : Text → Option α), name ∈ names →
      given? left name read = given? right name read :=
    fun name read known => by rw [given?, given?, same name known]
  have faulty : faults left = faults right := by
    refine List.filterMap_congr fun reader member => ?_
    rw [faultOf?, faultOf?, same reader.1 (List.mem_map_of_mem member)]
  have same : filled host left = filled host right := by
    unfold filled
    rw [given "listen" _ (by decide), given "workers" _ (by decide), given "domain" _ (by decide),
      given "password" _ (by decide), given "motd_file" _ (by decide),
      given "channellen" _ (by decide), given "nicklen" _ (by decide)]
  rw [ofDocument_eq, ofDocument_eq, faulty, same]

theorem after_eq_error_iff {fault? : Option SettingsError} {outcome : Except SettingsError α}
    {error : SettingsError} :
    after fault? outcome = .error error ↔
      fault? = some error ∨ (fault? = none ∧ outcome = .error error) := by
  cases fault? <;> simp [after]

theorem after_eq_ok_iff {fault? : Option SettingsError} {outcome : Except SettingsError α}
    {result : α} : after fault? outcome = .ok result ↔ fault? = none ∧ outcome = .ok result := by
  cases fault? <;> simp [after]

theorem checked_eq_ok_iff {settings result : Settings} :
    checked settings = .ok result ↔
      result = settings ∧ 1 ≤ settings.channelLimit ∧ 1 ≤ settings.nickLimit := by
  unfold checked
  split
  · rename_i zero
    simp only [reduceCtorEq, false_iff]
    omega
  · rename_i positive
    rw [Except.ok.injEq, eq_comm]
    exact (and_iff_left (by omega)).symm

theorem checked_eq_error_iff {settings : Settings} {error : SettingsError} :
    checked settings = .error error ↔
      error = .badValue "nicklen/channellen" "0" ∧
        (settings.channelLimit = 0 ∨ settings.nickLimit = 0) := by
  unfold checked
  split
  · rename_i zero
    simp [zero, eq_comm]
  · rename_i positive
    simp [positive]

/-- A length is zero only if the document says so. -/
theorem getD_eq_zero_iff {given : Option Nat} {fallback : Nat} (positive : 0 < fallback) :
    given.getD fallback = 0 ↔ given = some 0 := by
  cases given with
  | none => simp; omega
  | some length => simp

theorem apply_apply (settings : Settings) (options : Options) :
    (settings.apply options).apply options = settings.apply options := by
  unfold apply
  cases options.port <;> cases options.password <;> cases options.domain <;> rfl

/-- What a server is started with depends on few lines of its file.  Of each of the seven names only
the first directive counts, so that the order of names, other names and repetitions do not matter.
Of several faults the first in the order of `names` is reported, and a length of zero after all of
them.  The command line comes before the file, and the file before the defaults. -/
theorem settings_ignore_layout (host : Text) :
    (∀ (text : Text) (document : List Directive), Document.parse text = .ok document →
      ofText host text = ofDocument host document) ∧
    (∀ left right : List Directive,
      (∀ name ∈ names, Document.paramsOf? left name = Document.paramsOf? right name) →
        ofDocument host left = ofDocument host right) ∧
    (∀ left right : List Directive, Document.Rearranged names left right →
      ofDocument host left = ofDocument host right) ∧
    (∀ (document : List Directive) (error : SettingsError),
      ofDocument host document = .error error ↔
        (faults document).head? = some error ∨
          (faults document = [] ∧ error = .badValue "nicklen/channellen" "0" ∧
            (given? document "channellen" number? = some 0 ∨
              given? document "nicklen" number? = some 0))) ∧
    ofDocument host [] = .ok (default host) ∧
    ∀ (document : List Directive) (settings : Settings),
      ofDocument host document = .ok settings →
        1 ≤ settings.channelLimit ∧ 1 ≤ settings.nickLimit ∧
          ∀ options : Options,
            let applied := settings.apply options
            applied.listen.port =
                (options.port.or ((given? document "listen" SocketAddress.parse?).map
                  SocketAddress.port)).getD (default host).listen.port ∧
              applied.password =
                (options.password.or (given? document "password" some)).getD
                  (default host).password ∧
              applied.domain =
                (options.domain.or (given? document "domain" some)).getD (default host).domain ∧
              applied.listen.ip = settings.listen.ip ∧ applied.workers = settings.workers ∧
              applied.motdFile = settings.motdFile ∧
              applied.channelLimit = settings.channelLimit ∧
              applied.nickLimit = settings.nickLimit ∧ applied.apply options = applied := by
  refine ⟨?_, ?_, ?_, ?_, rfl, ?_⟩
  · intro text document parsed
    rw [ofText, parsed]
  · exact fun left right same => ofDocument_congr host same
  · intro left right rearranged
    refine ofDocument_congr host fun name known => ?_
    rw [Document.paramsOf?, Document.paramsOf?, rearranged.find?_eq known]
  · intro document error
    have channelLimit : (filled host document).channelLimit = 0 ↔
        given? document "channellen" number? = some 0 := getD_eq_zero_iff (show 0 < 50 by decide)
    have nickLimit : (filled host document).nickLimit = 0 ↔
        given? document "nicklen" number? = some 0 := getD_eq_zero_iff (show 0 < 9 by decide)
    rw [ofDocument_eq, after_eq_error_iff, checked_eq_error_iff, List.head?_eq_none_iff,
      channelLimit, nickLimit]
  · intro document settings accepted
    rw [ofDocument_eq, after_eq_ok_iff, checked_eq_ok_iff] at accepted
    obtain ⟨-, rfl, channelLimit, nickLimit⟩ := accepted
    refine ⟨channelLimit, nickLimit, fun options => ?_⟩
    refine ⟨?_, ?_, ?_, rfl, rfl, rfl, rfl, rfl, apply_apply _ options⟩
    · rw [Option.getD_or, Option.getD_map]
      rfl
    · rw [Option.getD_or]
      rfl
    · rw [Option.getD_or]
      rfl

example : ofText "h" "nicklen 0\nx \x7b\nlisten no\n\x7d\nworkers -1\nworkers 1\ndomain\n" =
    .error (.badValue "workers" "-1") := by
  decide +kernel

end Settings

end IrcServer
