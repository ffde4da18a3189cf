import ModalDrill.Proofs.Command.Counts

namespace ModalDrill

/-!
# The grammar of counted commands

A typed text is cut between the first character that is no digit and what comes before
it.  This is the only place where a count can end, because a digit is no letter.  So the
cut finds a count exactly in the texts that are one, a numeral followed by a word of
small letters, and it leaves every other text whole.
-/

namespace Count

/-- A text that is a numeral in ASCII digits and, behind it, a word of the small letters
from `a` to `z`.  Neither of them is empty. -/
structure Counted (digits word text : List Char) : Prop where
  text_eq : text = digits ++ word
  digits_ne_nil : digits ≠ []
  word_ne_nil : word ≠ []
  decimal : forall c, c ∈ digits -> Text.isDigit c = true
  small : forall c, c ∈ word -> isSmallLetter c = true

/-- No count can be found in a text. -/
def Uncounted (text : List Char) : Prop :=
  forall digits word, ¬ Counted digits word text

/-! ## One cut -/

theorem Counted.takeWhile_eq {digits word text : List Char} (counted : Counted digits word text) :
    text.takeWhile Text.isDigit = digits := by
  rw [counted.text_eq, List.takeWhile_append_of_pos counted.decimal,
    takeWhile_isDigit_of_word counted.small, List.append_nil]

/-- A text is counted in one way. -/
theorem Counted.unique {digits word digits' word' text : List Char}
    (counted : Counted digits word text) (counted' : Counted digits' word' text) :
    digits = digits' ∧ word = word' := by
  have digits_eq : digits = digits' := counted.takeWhile_eq.symm.trans counted'.takeWhile_eq
  refine ⟨digits_eq, ?_⟩
  have text_eq : digits ++ word = digits' ++ word' := counted.text_eq.symm.trans counted'.text_eq
  rw [digits_eq] at text_eq
  exact List.append_cancel_left text_eq

/-- Every character of a counted text is a digit or a small letter. -/
theorem Counted.isDigit_or_isSmallLetter {digits word text : List Char}
    (counted : Counted digits word text) {c : Char} (listed : c ∈ text) :
    Text.isDigit c = true ∨ isSmallLetter c = true := by
  rw [counted.text_eq, List.mem_append] at listed
  exact listed.imp (counted.decimal c) (counted.small c)

/-- One foreign character is enough to keep a text from being counted. -/
theorem uncounted_of_foreign {text : List Char} {c : Char} (listed : c ∈ text)
    (noDigit : Text.isDigit c = false) (noLetter : isSmallLetter c = false) : Uncounted text := by
  intro digits word counted
  rcases counted.isDigit_or_isSmallLetter listed with digit | letter
  · exact absurd digit (Bool.eq_false_iff.mp noDigit)
  · exact absurd letter (Bool.eq_false_iff.mp noLetter)

/-- A numeral without a word is no count of anything. -/
theorem uncounted_of_digits {text : List Char}
    (decimal : forall c, c ∈ text -> Text.isDigit c = true) : Uncounted text := by
  intro digits word counted
  rcases List.exists_mem_of_ne_nil word counted.word_ne_nil with ⟨c, listed⟩
  have digit : Text.isDigit c = true := by
    apply decimal
    rw [counted.text_eq]
    exact List.mem_append_right digits listed
  rw [isDigit_of_isSmallLetter (counted.small c listed)] at digit
  cases digit

/-! ## The cut of the program -/

theorem Counted.split_eq {digits word text : List Char} (counted : Counted digits word text) :
    split text = (min (Text.numeralValue digits) limit, word) := by
  rw [counted.text_eq, split_counted counted.digits_ne_nil counted.word_ne_nil counted.decimal
    counted.small, capped_eq_min, Nat.min_comm]

/-- What the cut takes for a count is one. -/
theorem counted_of_split_ne {text : List Char} (cut : split text ≠ (1, text)) :
    Counted (text.takeWhile Text.isDigit) (text.dropWhile Text.isDigit) text := by
  have accepted : (!(text.takeWhile Text.isDigit).isEmpty && !(text.dropWhile Text.isDigit).isEmpty &&
      (text.dropWhile Text.isDigit).all isSmallLetter) = true := by
    by_contra rejected
    exact cut (if_neg rejected)
  rw [Bool.and_eq_true, Bool.and_eq_true, Bool.not_eq_true', Bool.not_eq_true',
    List.isEmpty_eq_false_iff, List.isEmpty_eq_false_iff, List.all_eq_true] at accepted
  rcases accepted with ⟨⟨numbered, named⟩, small⟩
  exact ⟨List.takeWhile_append_dropWhile.symm, numbered, named, fun c => List.mem_takeWhile_imp, small⟩

theorem split_of_uncounted {text : List Char} (uncounted : Uncounted text) :
    split text = (1, text) := by
  by_contra cut
  exact uncounted _ _ (counted_of_split_ne cut)

end Count

namespace Command

/-! ## Typed texts -/

theorem split_of_counted {typed : String} {digits word : List Char}
    (counted : Count.Counted digits word (Text.trim typed.toList)) :
    split typed = (min (Text.numeralValue digits) Count.limit, String.ofList word) := by
  unfold split
  rw [counted.split_eq]

theorem split_of_uncounted {typed : String}
    (uncounted : Count.Uncounted (Text.trim typed.toList)) : split typed = (1, Text.strip typed) := by
  unfold split
  rw [Count.split_of_uncounted uncounted]
  rfl

/-- Blanks around a counted text are stripped from it, and nothing else is. -/
theorem counted_of_padded {digits word text front back : List Char}
    (counted : Count.Counted digits word text)
    (blankFront : forall c, c ∈ front -> Text.isBlank c = true)
    (blankBack : forall c, c ∈ back -> Text.isBlank c = true) :
    Count.Counted digits word (Text.trim (Text.padded front (String.ofList text) back).toList) := by
  have solid : forall c, c ∈ text -> Text.isBlank c = false :=
    fun c listed => Count.isBlank_of_counted (counted.isDigit_or_isSmallLetter listed)
  rw [Text.padded, String.toList_ofList, String.toList_ofList,
    Text.trim_append_of_blank blankFront blankBack, Text.trim_of_solid solid]
  exact counted

/-- A count is found in a stripped text exactly if the text is a numeral with a word of
small letters behind it.  It is the value of the numeral, however many digits and leading
zeros this has, up to the cap; and it is found in one way.  Any other character, or a
missing word, makes the text a word as a whole.  Blanks around a counted word change
nothing, and with the same word a numeral can be exchanged for any other one of the same
value up to the cap. -/
theorem split_recognises_counts (typed : String) :
    (forall digits word, Count.Counted digits word (Text.trim typed.toList) ->
      split typed = (min (Text.numeralValue digits) 999999, String.ofList word)) ∧
    (Count.Uncounted (Text.trim typed.toList) -> split typed = (1, Text.strip typed)) ∧
    (forall digits word digits' word', Count.Counted digits word (Text.trim typed.toList) ->
      Count.Counted digits' word' (Text.trim typed.toList) -> digits = digits' ∧ word = word') ∧
    (forall c, c ∈ Text.trim typed.toList -> Text.isDigit c = false ->
      Count.isSmallLetter c = false -> split typed = (1, Text.strip typed)) ∧
    ((forall c, c ∈ Text.trim typed.toList -> Text.isDigit c = true) ->
      split typed = (1, Text.strip typed)) ∧
    forall digits word front back, Count.Counted digits word (digits ++ word) ->
      (forall c, c ∈ front -> Text.isBlank c = true) ->
      (forall c, c ∈ back -> Text.isBlank c = true) ->
      split (Text.padded front (String.ofList (digits ++ word)) back) =
        (min (Text.numeralValue digits) 999999, String.ofList word) ∧
      forall digits' front' back', Count.Counted digits' word (digits' ++ word) ->
        (forall c, c ∈ front' -> Text.isBlank c = true) ->
        (forall c, c ∈ back' -> Text.isBlank c = true) ->
        min (Text.numeralValue digits') 999999 = min (Text.numeralValue digits) 999999 ->
        split (Text.padded front' (String.ofList (digits' ++ word)) back') =
          split (Text.padded front (String.ofList (digits ++ word)) back) := by
  refine ⟨?_, split_of_uncounted, ?_, ?_, ?_, ?_⟩
  · intro digits word counted
    exact split_of_counted counted
  · intro digits word digits' word' counted counted'
    exact counted.unique counted'
  · intro c listed noDigit noLetter
    exact split_of_uncounted (Count.uncounted_of_foreign listed noDigit noLetter)
  · intro decimal
    exact split_of_uncounted (Count.uncounted_of_digits decimal)
  · intro digits word front back counted blankFront blankBack
    have read := split_of_counted (counted_of_padded counted blankFront blankBack)
    refine ⟨read, ?_⟩
    intro digits' front' back' counted' blankFront' blankBack' same
    have read' := split_of_counted (counted_of_padded counted' blankFront' blankBack')
    have capped : min (Text.numeralValue digits') Count.limit =
        min (Text.numeralValue digits) Count.limit := same
    rw [read, read', capped]

/-- Ten digits with leading zeros are beyond the cap, and so they are the cap itself.  An
Arabic digit is no digit here, and a sign in front of the digits makes them a word. -/
theorem split_recognises_counts_beyond_cap :
    let digits := ['0', '0', '1', '2', '3', '4', '5', '6', '7', '8']
    let cap := ['9', '9', '9', '9', '9', '9']
    Count.Counted digits ['d', 'd'] (digits ++ ['d', 'd']) ∧
    split (Text.padded ['\t', ' '] (String.ofList (digits ++ ['d', 'd'])) ['\n']) = (999999, "dd") ∧
    split (Text.padded ['\t', ' '] (String.ofList (digits ++ ['d', 'd'])) ['\n']) =
      split (Text.padded [] (String.ofList (cap ++ ['d', 'd'])) []) ∧
    split "٣dd" = (1, "٣dd") ∧ split " +3dd" = (1, "+3dd") := by
  intro digits cap
  have counted : Count.Counted digits ['d', 'd'] (digits ++ ['d', 'd']) :=
    ⟨rfl, List.cons_ne_nil _ _, List.cons_ne_nil _ _, List.all_eq_true.mp rfl,
      List.all_eq_true.mp rfl⟩
  have counted' : Count.Counted cap ['d', 'd'] (cap ++ ['d', 'd']) :=
    ⟨rfl, List.cons_ne_nil _ _, List.cons_ne_nil _ _, List.all_eq_true.mp rfl,
      List.all_eq_true.mp rfl⟩
  have blankFront : forall c, c ∈ ['\t', ' '] -> Text.isBlank c = true := List.all_eq_true.mp rfl
  have blankBack : forall c, c ∈ ['\n'] -> Text.isBlank c = true := List.all_eq_true.mp rfl
  have noBlank : forall c, c ∈ [] -> Text.isBlank c = true := List.forall_mem_nil _
  have typed := (split_recognises_counts "").2.2.2.2.2 cap ['d', 'd'] [] [] counted' noBlank noBlank
  have exchanged := typed.2 digits ['\t', ' '] ['\n'] counted blankFront blankBack (by decide)
  have arabic := (split_recognises_counts "٣dd").2.2.2.1 '٣' (by decide) (by decide) (by decide)
  have signed := (split_recognises_counts " +3dd").2.2.2.1 '+' (by decide) (by decide) (by decide)
  have stripped : Text.strip "٣dd" = "٣dd" := by decide +kernel
  have stripped' : Text.strip " +3dd" = "+3dd" := by decide +kernel
  rw [stripped] at arabic
  rw [stripped'] at signed
  exact ⟨counted, exchanged.trans typed.1, exchanged, arabic, signed⟩

end Command
end ModalDrill
