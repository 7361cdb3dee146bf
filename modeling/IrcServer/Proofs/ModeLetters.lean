import IrcServer.Mode
import Mathlib.Data.List.Basic

namespace IrcServer

/-! How a mode string is read.

Its letters are its characters without the signs, each under the nearest sign before it.  A letter
`o` takes the first nickname that no `o` before it has taken, and no other letter takes any.  So two
things are known of what was read already, the last sign and the number of letters `o`, and the rest
is read from there (`items_pair_letters`). -/

namespace Mode

def isSign (c : Char) : Bool :=
  c = '+' || c = '-'

def signChar (enabled : Bool) : Char :=
  if enabled then '+' else '-'

/-- The characters of a mode string that are letters. -/
def symbols (modes : Text) : Text :=
  modes.filter fun c => !isSign c

/-- Whether what follows some modes stands under a plus.  The last sign in them says so, and
`enabled` if there is none. -/
def signAfter (enabled : Bool) (modes : Text) : Bool :=
  match modes.reverse.find? isSign with
  | none => enabled
  | some sign => sign = '+'

/-- What comes of a letter.  `nick?` is the nickname that it takes if it is one that takes any. -/
def itemOf (letter : Letter) (nick? : Option Text) : Except Fault Change :=
  if letter.symbol = 'o' then
    match nick? with
    | none => .error (.missingParam letter)
    | some nick => .ok ⟨letter.enabled, nick⟩
  else .error (.unknown letter)

section Letters

variable {enabled : Bool} {c : Char}

/-- A sign counts as long as none comes after it. -/
theorem signAfter_cons (enabled : Bool) (c : Char) (rest : Text) :
    signAfter enabled (c :: rest) = signAfter (if isSign c then c = '+' else enabled) rest := by
  unfold signAfter
  rw [List.reverse_cons, List.find?_append]
  cases rest.reverse.find? isSign with
  | some sign => rfl
  | none => by_cases sign : isSign c = true <;> simp [sign]

theorem lettersUnder_sign (sign : isSign c = true) (rest : Text) :
    lettersUnder enabled (c :: rest) = lettersUnder (c = '+') rest := by
  simp only [isSign, Bool.or_eq_true, decide_eq_true_eq] at sign
  rcases sign with rfl | rfl <;> rfl

theorem lettersUnder_letter (letter : isSign c = false) (rest : Text) :
    lettersUnder enabled (c :: rest) = ⟨enabled, c⟩ :: lettersUnder enabled rest := by
  simp only [isSign, Bool.or_eq_false_iff, decide_eq_false_iff_not] at letter
  rw [lettersUnder, if_neg letter.1, if_neg letter.2]

theorem symbols_sign (sign : isSign c = true) (rest : Text) : symbols (c :: rest) = symbols rest :=
  List.filter_cons_of_neg (by simp [sign])

theorem symbols_letter (letter : isSign c = false) (rest : Text) :
    symbols (c :: rest) = c :: symbols rest :=
  List.filter_cons_of_pos (by simp [letter])

theorem lettersUnder_append (enabled : Bool) (front back : Text) :
    lettersUnder enabled (front ++ back) =
      lettersUnder enabled front ++ lettersUnder (signAfter enabled front) back := by
  induction front generalizing enabled with
  | nil => rfl
  | cons c rest inductionHypothesis =>
      rw [List.cons_append, signAfter_cons]
      cases sign : isSign c with
      | true => rw [lettersUnder_sign sign, lettersUnder_sign sign, inductionHypothesis, if_pos rfl]
      | false =>
          rw [lettersUnder_letter sign, lettersUnder_letter sign, inductionHypothesis,
            if_neg Bool.false_ne_true, List.cons_append]

theorem map_symbol_lettersUnder (enabled : Bool) (modes : Text) :
    (lettersUnder enabled modes).map Letter.symbol = symbols modes := by
  induction modes generalizing enabled with
  | nil => rfl
  | cons c rest inductionHypothesis =>
      cases sign : isSign c with
      | true => rw [lettersUnder_sign sign, symbols_sign sign, inductionHypothesis]
      | false =>
          rw [lettersUnder_letter sign, symbols_letter sign, List.map_cons, inductionHypothesis]

theorem lettersUnder_signChar (enabled other : Bool) (modes : Text) :
    lettersUnder other (signChar enabled :: modes) = lettersUnder enabled modes := by
  cases enabled <;> rfl

/-- No sign is a letter `o`. -/
theorem count_symbols (modes : Text) : (symbols modes).count 'o' = modes.count 'o' :=
  List.count_filter (by decide)

end Letters

section Items

theorem changesOf_cons (letter : Letter) (rest : List Letter) (nicks : List Text) :
    changesOf (letter :: rest) nicks =
      itemOf letter nicks.head? :: changesOf rest (nicks.drop ([letter.symbol].count 'o')) := by
  by_cases taking : letter.symbol = 'o'
  · cases nicks <;> simp [changesOf, itemOf, taking]
  · simp [changesOf, itemOf, taking]

/-- What the letters in front have taken is missing from the nicknames of the others. -/
theorem changesOf_append (front back : List Letter) (nicks : List Text) :
    changesOf (front ++ back) nicks =
      changesOf front nicks ++
        changesOf back (nicks.drop ((front.map Letter.symbol).count 'o')) := by
  induction front generalizing nicks with
  | nil => rfl
  | cons letter rest inductionHypothesis =>
      rw [List.cons_append, changesOf_cons, changesOf_cons, inductionHypothesis, List.drop_drop,
        ← List.count_append, List.cons_append]
      rfl

theorem length_changesOf (letters : List Letter) (nicks : List Text) :
    (changesOf letters nicks).length = letters.length := by
  induction letters generalizing nicks with
  | nil => rfl
  | cons letter rest inductionHypothesis =>
      rw [changesOf_cons, List.length_cons, inductionHypothesis, List.length_cons]

theorem length_channelChanges (modes : Text) (params : List Text) :
    (channelChanges modes params).length = (symbols modes).length := by
  rw [channelChanges, length_changesOf, letters, ← map_symbol_lettersUnder true, List.length_map]

/-- The rest of a mode string is read under the last sign, with the nicknames that are left. -/
theorem channelChanges_append (front back : Text) (params : List Text) :
    channelChanges (front ++ back) params =
      channelChanges front params ++
        changesOf (lettersUnder (signAfter true front) back)
          ((params.filter (· ≠ [])).drop (front.count 'o')) := by
  rw [channelChanges, letters, lettersUnder_append, changesOf_append, map_symbol_lettersUnder,
    count_symbols]
  rfl

theorem channelChanges_signChar (enabled : Bool) (modes : Text) {nicks : List Text}
    (filled : ∀ nick ∈ nicks, nick ≠ []) :
    channelChanges (signChar enabled :: modes) nicks =
      changesOf (lettersUnder enabled modes) nicks := by
  have whole : nicks.filter (· ≠ []) = nicks :=
    List.filter_eq_self.mpr fun nick member => decide_eq_true (filled nick member)
  rw [channelChanges, whole, letters, lettersUnder_signChar]

end Items

/-- One item comes of each letter of a mode string, in order, and it depends on nothing but the
letter, the nearest sign before it, and the nickname at the place that the letter has among the
letters `o`; blank parameters are no nicknames.  A mode string can be read in two parts. -/
theorem items_pair_letters (modes : Text) (params : List Text) :
    let nicks := params.filter (· ≠ [])
    (channelChanges modes params).length = (symbols modes).length ∧
    (∀ (before after : Text) (c : Char), modes = before ++ c :: after → isSign c = false →
      (channelChanges modes params)[(symbols before).length]? =
        some (itemOf ⟨signAfter true before, c⟩ nicks[before.count 'o']?)) ∧
    ∀ front back : Text, modes = front ++ back →
      channelChanges modes params =
        channelChanges front params ++
          channelChanges (signChar (signAfter true front) :: back)
            (nicks.drop (front.count 'o')) := by
  intro nicks
  refine ⟨length_channelChanges modes params, ?_, ?_⟩
  · rintro before after c rfl letter
    rw [channelChanges_append, ← length_channelChanges before params,
      List.getElem?_append_right (Nat.le_refl _), Nat.sub_self, lettersUnder_letter letter,
      changesOf_cons, List.getElem?_cons_zero, List.head?_drop]
  · rintro front back rfl
    rw [channelChanges_append, channelChanges_signChar]
    intro nick left
    simpa using (List.mem_filter.mp (List.mem_of_mem_drop left)).2

example : channelChanges "-oX-+oo" ["", "admin", "bob"] =
    [.ok ⟨false, "admin"⟩, .error (.unknown ⟨false, 'X'⟩), .ok ⟨true, "bob"⟩,
      .error (.missingParam ⟨true, 'o'⟩)] := by
  decide

end Mode

end IrcServer
