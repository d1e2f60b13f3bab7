import DiceChat.Proofs.Outcome
import DiceChat.Text.Template
import Mathlib

/-! A template with one place is filled with two texts alike: the results differ in length by no more than the texts. -/

namespace DiceChat

/-- Whether a character stands for itself in running text, between quote marks, and where only ASCII is known. -/
def isPlain (c : Char) : Bool :=
  -- All that shows and is neither a quote mark nor the backslash.
  0x20 ≤ c.toNat && c.toNat < 0x7F && !(['\x22', '\x27', '\\'].contains c)

/-- A plain character shows itself. -/
theorem isPrintable_of_isPlain {c : Char} (plain : isPlain c = true) : isPrintable c = true := by
  -- The printable part of ASCII lies between the first two ranges.
  simp only [isPlain, Bool.and_eq_true, decide_eq_true_eq] at plain
  have first : unprintableRanges.find? (fun range => decide (c.toNat ≤ range.2)) =
      some (0x7F, 0xA0) := by
    rw [show unprintableRanges = (0x0, 0x1F) :: (0x7F, 0xA0) :: unprintableRanges.drop 2 from rfl,
      List.find?_cons_of_neg (by simp; omega), List.find?_cons_of_pos (by simp; omega)]
  rw [isPrintable, first]
  simp only [decide_eq_true_eq]
  exact plain.1.2

/-- A plain text is quoted as it is. -/
theorem quote_of_isPlain {text : Text} (plain : ∀ c ∈ text, isPlain c = true) :
    quote text = [singleQuote] ++ text ++ [singleQuote] := by
  -- It holds no single quote, so single quotes surround it, and no character is escaped.
  have clear : ∀ c ∈ text, c ≠ singleQuote ∧ c ≠ '\\' ∧ 0x20 ≤ c.toNat := by
    intro c member
    have shown := plain c member
    simp only [isPlain, Bool.and_eq_true, decide_eq_true_eq] at shown
    refine ⟨?_, ?_, shown.1.1⟩ <;> rintro rfl <;> exact absurd shown.2 (by decide)
  have mark : quoteMark text = singleQuote := by
    have absent : text.contains singleQuote = false := by
      rw [← Bool.not_eq_true, List.contains_iff_mem]
      exact fun member => (clear _ member).1 rfl
    simp only [quoteMark, absent, Bool.false_and, Bool.false_eq_true, if_false]
  -- Every character is shown, and none of them has a short form.
  have each : ∀ c ∈ text, quoteChar singleQuote c = [c] := by
    intro c member
    obtain ⟨quoted, escaped, low⟩ := clear c member
    have control : ∀ mark : Char, mark.toNat < 0x20 → c ≠ mark := by
      rintro mark below rfl
      omega
    rw [quoteChar, if_neg (by simp [quoted, escaped]), if_neg (control _ (by decide)),
      if_neg (control _ (by decide)), if_neg (control _ (by decide)),
      if_pos (isPrintable_of_isPlain (plain c member))]
  rw [quote, mark, List.flatMap_congr each, List.flatMap_singleton']
  rfl

/-- A plain text stays as it is where only ASCII is known. -/
theorem asciiOnly_of_isPlain {text : Text} (plain : ∀ c ∈ text, isPlain c = true) :
    asciiOnly text = text := by
  -- Every plain character is known where only ASCII is.
  have each : ∀ c ∈ text, (if c.toNat < 0x80 then [c] else escapeCode c) = [c] := by
    intro c member
    have shown := plain c member
    simp only [isPlain, Bool.and_eq_true, decide_eq_true_eq] at shown
    exact if_pos (by omega)
  rw [asciiOnly, List.flatMap_congr each, List.flatMap_singleton']

/-- Two plain texts of which the second is not the shorter one. -/
structure Widens (short long : Text) : Prop where
  /-- The first text is plain. -/
  plain_short : ∀ c ∈ short, isPlain c = true
  /-- The second text is plain. -/
  plain_long : ∀ c ∈ long, isPlain c = true
  /-- The second text is at least as long. -/
  grows : short.length ≤ long.length

/-- Two plain characters are texts of one length. -/
theorem Widens.letters {c d : Char} (plain_first : isPlain c = true) (plain_second : isPlain d = true) :
    Widens [c] [d] :=
  ⟨by simpa using plain_first, by simpa using plain_second, Nat.le_refl _⟩

/-- A text and what it becomes when one plain stretch gives way to another, longer by at most so much. -/
inductive Stretched (excess : Nat) : Text → Text → Prop where
  /-- What stands around the stretch is the same. -/
  | around (before : Text) {short long : Text} (behind : Text) (widens : Widens short long)
      (within : long.length ≤ short.length + excess) :
      Stretched excess (before ++ short ++ behind) (before ++ long ++ behind)

namespace Stretched

variable {excess : Nat} {short long : Text}

/-- Nothing has to change. -/
theorem refl (excess : Nat) (text : Text) : Stretched excess text text := by
  -- Nothing is inserted, so nothing is stretched.
  have unchanged : Stretched excess (text ++ [] ++ []) (text ++ [] ++ []) :=
    .around text [] ⟨by simp, by simp, Nat.le_refl _⟩ (Nat.le_add_right _ _)
  simpa using unchanged

/-- A plain text is one stretch. -/
theorem of_widens (widens : Widens short long) (within : long.length ≤ short.length + excess) :
    Stretched excess short long := by
  -- Nothing stands around what was inserted.
  have whole : Stretched excess ([] ++ short ++ []) ([] ++ long ++ []) :=
    .around [] [] widens within
  simpa using whole

/-- The same text may be added on either side. -/
theorem append (stretched : Stretched excess short long) (before behind : Text) :
    Stretched excess (before ++ short ++ behind) (before ++ long ++ behind) := by
  -- What stands around the longer text joins what stood around the shorter one.
  obtain ⟨inner_before, inner_behind, widens, within⟩ := stretched
  simpa only [List.append_assoc] using
    Stretched.around (before ++ inner_before) (inner_behind ++ behind) widens within

/-- Quoted texts are stretched by as much. -/
theorem quote_of_widens (widens : Widens short long)
    (within : long.length ≤ short.length + excess) :
    Stretched excess (quote short) (quote long) := by
  rw [quote_of_isPlain widens.plain_short, quote_of_isPlain widens.plain_long]
  exact .around _ _ widens within

/-- A plain stretch is still there when all other characters are written in ASCII. -/
theorem asciiOnly (stretched : Stretched excess short long) :
    Stretched excess (asciiOnly short) (asciiOnly long) := by
  -- Each of the three parts is escaped by itself, and the inserted text is plain.
  obtain ⟨before, behind, widens, within⟩ := stretched
  have split : ∀ a b c : Text, DiceChat.asciiOnly (a ++ b ++ c) =
      DiceChat.asciiOnly a ++ DiceChat.asciiOnly b ++ DiceChat.asciiOnly c := by
    intro a b c
    simp only [DiceChat.asciiOnly, List.flatMap_append]
  rw [split, split, asciiOnly_of_isPlain widens.plain_short, asciiOnly_of_isPlain widens.plain_long]
  exact .around _ _ widens within

/-- The longer text is longer by no more than the stretch. -/
theorem length_le (stretched : Stretched excess short long) :
    short.length ≤ long.length ∧ long.length ≤ short.length + excess := by
  -- What stands around counts the same in both texts.
  obtain ⟨before, behind, widens, within⟩ := stretched
  have grows := widens.grows
  simp only [List.length_append]
  omega

end Stretched

/-- Steps that fail alike, or succeed with related results. -/
inductive Agree {ε α β : Type} (related : α → β → Prop) : Except ε α → Except ε β → Prop where
  /-- Both fail, and with the same error. -/
  | error (error : ε) : Agree related (.error error) (.error error)
  /-- Both succeed. -/
  | ok {first : α} {second : β} (results : related first second) :
      Agree related (.ok first) (.ok second)

namespace Agree

variable {ε α β γ δ : Type} {related : α → β → Prop} {first : Except ε α} {second : Except ε β}

/-- A step agrees with itself. -/
theorem refl {related : α → α → Prop} (all : ∀ value, related value value) (step : Except ε α) :
    Agree related step step := by
  -- A step is related to itself, whether it fails or not.
  cases step with
  | error error => exact .error error
  | ok value => exact .ok (all value)

/-- Changing the results of steps keeps them in agreement if it relates the new results. -/
theorem map {related' : γ → δ → Prop} (agree : Agree related first second) {change : α → γ}
    {change' : β → δ} (carries : ∀ a b, related a b → related' (change a) (change' b)) :
    Agree related' (first.map change) (second.map change') := by
  -- Both steps fail alike, or both have results that are related.
  cases agree with
  | error error => exact .error error
  | ok results => exact .ok (carries _ _ results)

/-- Errors may be told in another way. -/
theorem mapError {ε' : Type} (agree : Agree related first second) (tell : ε → ε') :
    Agree related (first.mapError tell) (second.mapError tell) := by
  -- The error is the same on both sides, so it is told alike.
  cases agree with
  | error error => exact .error (tell error)
  | ok results => exact .ok results

/-- Results of two steps that succeed are related. -/
theorem of_eq_ok (agree : Agree related first second) {value : α} {value' : β}
    (shown : first = .ok value) (shown' : second = .ok value') : related value value' := by
  -- Steps that both succeed are not the same failure.
  subst shown shown'
  cases agree with
  | ok results => exact results

end Agree

namespace Subject

/-- What the same steps lead to from two texts. -/
inductive Alike (short long : Text) : Subject → Subject → Prop where
  /-- What does not depend on the texts. -/
  | same (subject : Subject) : Alike short long subject subject
  /-- The texts themselves. -/
  | whole : Alike short long (.text short) (.text long)
  /-- A character of each. -/
  | letter {c d : Char} (plain_first : isPlain c = true) (plain_second : isPlain d = true) :
      Alike short long (.text [c]) (.text [d])
  /-- A part taken from things that are alike. -/
  | bound (form : Form) (owner : Kind) (name : Text) {first second : Subject}
      (sources : Alike short long first second) :
      Alike short long (.bound form owner name first) (.bound form owner name second)

namespace Alike

variable {short long : Text} {first second : Subject}

/-- Things that are alike are of one kind. -/
theorem kindOf_eq (alike : Alike short long first second) : first.kindOf = second.kindOf := by
  cases alike <;> rfl

/-- Things that are alike have the same things of their own. -/
theorem ownEntries_eq (alike : Alike short long first second) :
    first.ownEntries = second.ownEntries := by
  cases alike <;> rfl

/-- The qualities of parts taken from things that are alike are alike. -/
theorem boundQuality (alike : Alike short long first second) (form : Form) (owner : Kind)
    (part name : Text) :
    Agree (Alike short long) (Subject.boundQuality form owner part first name)
      (Subject.boundQuality form owner part second name) := by
  -- Texts and parts taken from them are given back, or else only their kind is looked at.
  have sources := alike
  cases alike with
  | same => exact .refl .same _
  | whole | letter | bound =>
    unfold Subject.boundQuality
    split
    · refine .ok ?_
      split
      · exact .same _
      · exact sources
    · exact .refl .same _
    · exact .refl .same _
    · cases form <;> exact .refl .same _
    · exact .refl .same _

/-- The qualities of things that are alike are alike. -/
theorem quality (alike : Alike short long first second) (owner : Kind) (name : Text) :
    Agree (Alike short long) (first.quality owner name) (second.quality owner name) := by
  -- The kind is a quality of every thing, and texts have no other.
  unfold Subject.quality
  rw [alike.kindOf_eq]
  split
  · exact .refl .same _
  · cases alike with
    | same => exact .refl .same _
    | whole | letter => exact .error _
    | bound form owner name sources => exact sources.boundQuality form owner name _

/-- What a kind holds for another kind is taken alike from things that are alike. -/
theorem rebind (alike : Alike short long first second) (held : Subject) :
    Alike short long (first.rebind held) (second.rebind held) := by
  -- Both subjects are of one kind, so both are bound in the same way.
  unfold Subject.rebind
  rw [alike.kindOf_eq]
  split
  · exact .bound _ _ _ alike
  · exact .same _
  · exact .bound _ _ _ alike
  · exact .bound _ _ _ alike
  · exact .same _

/-- Parts of a kind are taken alike from things that are alike. -/
theorem take (alike : Alike short long first second) (owner : Kind) (name : Text)
    (holding : Holding) :
    Alike short long (first.take owner name holding) (second.take owner name holding) := by
  -- Both subjects are of one kind, so the part is taken in the same way from both.
  unfold Subject.take
  rw [alike.kindOf_eq]
  split
  · exact alike.rebind _
  · exact .same _
  · exact .same _
  · exact .same _
  · exact .same _
  · exact .bound _ _ _ alike
  · exact .bound _ _ _ alike
  · exact .bound _ _ _ alike
  · exact .same _

/-- Things that are alike have parts that are alike, apart from what belongs to functions only. -/
theorem thingPart (alike : Alike short long first second) (name : Text) :
    Agree (Alike short long) (first.thingPart name) (second.thingPart name) := by
  -- Where a part is looked for depends on the kind and on what belongs to the things.
  unfold Subject.thingPart
  rw [alike.kindOf_eq, alike.ownEntries_eq]
  split
  · exact .refl .same _
  · rename_i owner holding found
    split
    · exact alike.quality owner name
    · refine .ok ?_
      cases Ordered.find? second.ownEntries name with
      | none => exact alike.take owner name holding
      | some entry => exact .same entry

/-- Things that are alike have parts that are alike. -/
theorem part? (alike : Alike short long first second) (name : Text) :
    Agree (Alike short long) (first.part? name) (second.part? name) := by
  -- A function taken from a thing has the parts of the function too.
  have parts := alike.thingPart name
  cases alike with
  | same => exact .refl .same _
  | whole | letter => exact parts
  | bound form owner held sources =>
    by_cases function : form = .function
    · subst function
      simp only [Subject.part?]
      generalize Subject.thingPart _ name = one at parts ⊢
      generalize Subject.thingPart _ name = other at parts ⊢
      -- A part that the bound function does not have is looked up in the function itself.
      cases parts with
      | error error =>
        split
        · exact .refl .same _
        · exact .error error
      | ok results => exact .ok results
    · cases form <;> first | exact parts | exact absurd rfl function

/-- Items of things that are alike are alike, if both have them. -/
theorem item (alike : Alike short long first second) (widens : Widens short long) (name : Text)
    (number : Option Nat) {found found' : Subject} (shown : first.item name number = .ok found)
    (shown' : second.item name number = .ok found') : Alike short long found found' := by
  -- The items of a text are its characters.
  have letters : ∀ {text : Text}, (∀ c ∈ text, isPlain c = true) → ∀ {item : Subject},
      (Subject.text text).item name number = .ok item →
        ∃ c, isPlain c = true ∧ item = .text [c] := by
    intro text plain item taken
    cases number with
    | none => exact nomatch taken
    | some number =>
      simp only [Subject.item, itemAt, List.getElem?_map] at taken
      cases at_number : text[number]? with
      | none => simp [at_number] at taken
      | some c =>
        simp only [at_number, Option.map_some, Option.elim_some] at taken
        exact ⟨c, plain c (List.mem_of_getElem? at_number), (Except.ok.inj taken).symm⟩
  have texts : ∀ {a b : Text}, Widens a b → (Subject.text a).item name number = .ok found →
      (Subject.text b).item name number = .ok found' → Alike short long found found' := by
    intro a b widens taken taken'
    obtain ⟨c, plain_first, rfl⟩ := letters widens.plain_short taken
    obtain ⟨d, plain_second, rfl⟩ := letters widens.plain_long taken'
    exact .letter plain_first plain_second
  -- Only texts have items at all, so the other cases are immediate.
  cases alike with
  | same => exact Except.ok.inj (shown.symm.trans shown') ▸ .same found
  | whole => exact texts widens shown shown'
  | letter plain_first plain_second =>
    exact texts (.letters plain_first plain_second) shown shown'
  | bound => exact nomatch shown

/-- Steps lead from things that are alike to things that are alike, if they lead anywhere. -/
theorem follow (alike : Alike short long first second) (widens : Widens short long) (fuel : Nat)
    (steps : Text) {found found' : Subject} (shown : Subject.follow fuel first steps = .ok found)
    (shown' : Subject.follow fuel second steps = .ok found') : Alike short long found found' := by
  -- Every step, to a part or to an item, leads to things that are alike.
  induction fuel generalizing first second steps with
  | zero =>
    rw [Subject.follow] at shown shown'
    rw [← Except.ok.inj shown, ← Except.ok.inj shown']
    exact alike
  | succ fuel ih =>
    cases steps with
    | nil =>
      rw [Subject.follow] at shown shown'
      rw [← Except.ok.inj shown, ← Except.ok.inj shown']
      exact alike
    | cons mark rest =>
      rw [Subject.follow] at shown shown'
      by_cases point : mark = '.'
      · -- A part of what was reached, told by name.
        simp only [point, if_true, bind_eq_ok_iff] at shown shown'
        obtain ⟨⟨name, rest⟩, read, part, taken, followed⟩ := shown
        obtain ⟨⟨name', rest'⟩, read', part', taken', followed'⟩ := shown'
        obtain ⟨rfl, rfl⟩ := Prod.mk.inj (Except.ok.inj (read.symm.trans read'))
        exact ih ((alike.part? name).of_eq_ok taken taken') rest followed followed'
      · -- An item of it, told by number or name; no other mark goes on.
        simp only [point, if_false] at shown shown'
        by_cases bracket : mark = '['
        · simp only [bracket, if_true, bind_eq_ok_iff] at shown shown'
          obtain ⟨⟨name, number, rest⟩, read, item, taken, followed⟩ := shown
          obtain ⟨⟨name', number', rest'⟩, read', item', taken', followed'⟩ := shown'
          have same := Except.ok.inj (read.symm.trans read')
          simp only [Prod.mk.injEq] at same
          obtain ⟨rfl, rfl, rfl⟩ := same
          exact ih (alike.item widens name number taken taken') rest followed followed'
        · simp [bracket] at shown

/-- Things that are alike are shown alike in a log. -/
theorem inline (alike : Alike short long first second) (widens : Widens short long) :
    Agree (Stretched (long.length - short.length)) first.inline second.inline := by
  -- Texts stand between quote marks, and functions are shown with the thing they were taken from.
  induction alike with
  | same => exact .refl (.refl _) _
  | whole =>
    simp only [Subject.inline]
    exact .ok (.quote_of_widens widens (by omega))
  | letter plain_first plain_second =>
    simp only [Subject.inline]
    exact .ok (.quote_of_widens (.letters plain_first plain_second) (Nat.le_add_right _ _))
  -- The kind of the thing is the same in both, so whatever shows the kind only is equal.
  | bound form owner name sources ih =>
    have kind := sources.kindOf_eq
    cases form with
    | function | kindFunction | freeFunction =>
      simp only [Subject.inline]
      exact ih.map fun _ _ stretched => stretched.append _ _
    | operation =>
      simp only [Subject.inline, kind]
      exact .refl (.refl _) _
    | _ =>
      simp only [Subject.inline]
      cases sources <;> exact .refl (.refl _) _

/-- Things that are alike are shown alike in running text. -/
theorem plain (alike : Alike short long first second) (widens : Widens short long) :
    Agree (Stretched (long.length - short.length)) first.plain second.plain := by
  -- Texts are shown as they are, and all else as in a log.
  have logged := alike.inline widens
  cases alike with
  | same => exact .refl (.refl _) _
  | whole => exact .ok (.of_widens widens (by omega))
  | letter plain_first plain_second =>
    exact .ok (.of_widens (.letters plain_first plain_second) (Nat.le_add_right _ _))
  | bound => exact logged

end Alike

/-- What a place finds for two texts. -/
inductive Found (short long : Text) : Subject → Subject → Prop where
  /-- Where it does not convert what its steps lead to. -/
  | alike {first second : Subject} (alike : Alike short long first second) :
      Found short long first second
  /-- Where it converts that to a text. -/
  | converted {a b : Text} (stretched : Stretched (long.length - short.length) a b) :
      Found short long (.text a) (.text b)

/-- Things that are alike are converted to texts that are alike. -/
theorem Alike.convert {short long : Text} {first second : Subject}
    (alike : Alike short long first second) (widens : Widens short long) (conversion : Char) :
    Agree (Found short long) (first.convert conversion) (second.convert conversion) := by
  -- The conversion decides in which of two ways the subject is shown.
  have running := alike.plain widens
  have logged := alike.inline widens
  unfold Subject.convert
  split
  · exact (running.map fun _ _ stretched => .converted stretched).mapError _
  split
  · exact (logged.map fun _ _ stretched => .converted stretched).mapError _
  split
  · exact (logged.map fun _ _ stretched => .converted stretched.asciiOnly).mapError _
  · exact .error _

end Subject

/-- Padding adds as many characters as are missing. -/
theorem Format.length_pad (format : Format) (text : Text) (missing : Nat) :
    (format.pad text missing).length = text.length + missing := by
  rw [pad]
  split <;> simp only [List.length_append, List.length_replicate] <;> omega

/-- Texts that are laid out in one way differ in length by no more than before. -/
theorem length_formatTextAs_le {kind : FormatKind} {format short long shown shown' : Text}
    (grows : short.length ≤ long.length) (laid : formatTextAs kind format short = .ok shown)
    (laid' : formatTextAs kind format long = .ok shown') :
    shown.length ≤ shown'.length ∧
      shown'.length ≤ shown.length + (long.length - short.length) := by
  -- Both are cut to the same precision and padded to the same width.
  rw [formatTextAs] at laid laid'
  split at laid
  · -- Without a format the text is laid out as it is.
    rename_i empty
    rw [if_pos empty] at laid'
    rw [← Except.ok.inj laid, ← Except.ok.inj laid']
    omega
  · -- The format is read alike, and it cuts and pads both.
    rename_i given
    rw [if_neg given] at laid'
    obtain ⟨read, known, laid⟩ := bind_eq_ok_iff.mp laid
    obtain ⟨read', known', laid'⟩ := bind_eq_ok_iff.mp laid'
    obtain rfl := Except.ok.inj (known.symm.trans known')
    rw [Format.showText] at laid laid'
    split at laid
    · exact nomatch laid
    · rename_i allowed
      simp only [allowed] at laid'
      rw [← Except.ok.inj laid, ← Except.ok.inj laid', Format.length_pad, Format.length_pad]
      simp only [List.length_take]
      cases read.precision <;> simp only [Option.getD_none, Option.getD_some] <;> omega

variable {short long : Text}

/-- What a place finds for two texts differs in length, as it is laid out, by no more than the texts. -/
theorem Subject.Found.length_layOut_le {first second : Subject}
    (found : Found short long first second) (widens : Widens short long)
    {format shown shown' : Text} (laid : first.layOut format = .ok shown)
    (laid' : second.layOut format = .ok shown') :
    shown.length ≤ shown'.length ∧
      shown'.length ≤ shown.length + (long.length - short.length) := by
  -- Texts are laid out, and parts taken from a thing have no form to choose from.
  have texts : ∀ {a b : Text}, a.length ≤ b.length →
      b.length - a.length ≤ long.length - short.length →
        (Subject.text a).layOut format = .ok shown → (Subject.text b).layOut format = .ok shown' →
          shown.length ≤ shown'.length ∧
            shown'.length ≤ shown.length + (long.length - short.length) := by
    intro a b shorter within laid laid'
    have length := length_formatTextAs_le shorter (mapError_eq_ok_iff.mp laid)
      (mapError_eq_ok_iff.mp laid')
    omega
  -- Converted texts are stretched; anything else is laid out by its kind.
  cases found with
  | converted stretched =>
    have length := stretched.length_le
    exact texts length.1 (by omega) laid laid'
  | alike alike =>
    have running := alike.plain widens
    cases alike with
    | same =>
      obtain rfl := Except.ok.inj (laid.symm.trans laid')
      omega
    | whole => exact texts widens.grows (Nat.le_refl _) laid laid'
    | @letter c d =>
      have equal : [c].length = [d].length := rfl
      exact texts (Nat.le_of_eq equal) (by simp) laid laid'
    | bound =>
      simp only [Subject.layOut] at laid laid'
      split at laid
      · rename_i empty
        rw [if_pos empty] at laid'
        exact (running.of_eq_ok (mapError_eq_ok_iff.mp laid) (mapError_eq_ok_iff.mp laid')).length_le
      · exact nomatch laid

/-- A place finds for two texts what is alike, and numbers places in one way. -/
theorem Place.found_of_find {place : Place} {numbering next next' : Numbering}
    {found found' : Subject} (widens : Widens short long)
    (shown : place.find (.text short) numbering = .ok (found, next))
    (shown' : place.find (.text long) numbering = .ok (found', next')) :
    Subject.Found short long found found' ∧ next = next' := by
  -- The numbering depends on the name of the place and not on what is found.
  simp only [find, bind_eq_ok_iff] at shown shown'
  obtain ⟨told, numbered, reached, followed, converted⟩ := shown
  obtain ⟨told', numbered', reached', followed', converted'⟩ := shown'
  obtain rfl := Except.ok.inj (numbered.symm.trans numbered')
  have alike := Subject.Alike.whole.follow widens _ _ followed followed'
  -- A conversion shows the whole thing, and without one the thing itself is found.
  split at converted
  · rename_i conversion asked
    simp only [asked, bind_eq_ok_iff] at converted'
    obtain ⟨text, made, rest⟩ := bind_eq_ok_iff.mp converted
    obtain ⟨text', made', rest'⟩ := converted'
    obtain ⟨rfl, rfl⟩ := Prod.mk.inj (Except.ok.inj rest)
    obtain ⟨rfl, rfl⟩ := Prod.mk.inj (Except.ok.inj rest')
    exact ⟨(alike.convert widens conversion).of_eq_ok made made', rfl⟩
  · rename_i asked
    simp only [asked] at converted'
    obtain ⟨rfl, rfl⟩ := Prod.mk.inj (Except.ok.inj converted)
    obtain ⟨rfl, rfl⟩ := Prod.mk.inj (Except.ok.inj converted')
    exact ⟨.alike alike, rfl⟩

namespace Template

/-- The places of a template. -/
def places (template : Template) : List Place :=
  template.filterMap fun piece =>
    match piece with
    | .place place => some place
    | _ => none

/-- How many places a template has for the inserted value, those in formats included. -/
def insertions (template : Template) : Nat :=
  (template.places.map fun place => 1 + (ofText place.format).places.length).sum

/-- A template that surrounds a value inserts it once. -/
theorem insertions_around (before after : Text) : (around before after).insertions = 1 :=
  rfl

/-- Every place of a template counts. -/
theorem length_places_le (template : Template) : template.places.length ≤ template.insertions := by
  rw [insertions]
  -- Each place takes at least one insertion.
  induction template.places with
  | nil => exact Nat.le_refl _
  | cons place rest ih =>
    simp only [List.map_cons, List.sum_cons, List.length_cons]
    omega

/-- A template without places makes one text of all values, or fails for all. -/
theorem fillPieces_of_places_eq_nil {template : Template} (bare : template.places = []) :
    (∃ written, ∀ fillFormat subject filling,
      fillPieces fillFormat subject filling template = .ok (filling.add written)) ∨
    ∃ error, ∀ fillFormat subject filling,
      fillPieces fillFormat subject filling template = .error error := by
  -- Its pieces are texts that stand as they are, up to the first fault.
  induction template with
  | nil =>
    refine .inl ⟨[], fun _ _ filling => ?_⟩
    rw [fillPieces, Filling.add, List.append_nil]
  | cons piece rest ih =>
    cases piece with
    | literal text =>
      rcases ih bare with ⟨written, made⟩ | ⟨error, failed⟩
      · refine .inl ⟨text ++ written, fun fillFormat subject filling => ?_⟩
        rw [fillPieces, made, Filling.add, Filling.add, Filling.add, List.append_assoc]
      · exact .inr ⟨error, fun fillFormat subject filling => failed _ _ _⟩
    | place place => cases bare
    | fault error => exact .inr ⟨error, fun _ _ _ => rfl⟩

end Template

/-- What is written so far for two texts. -/
structure Filling.Alike (excess : Nat) (first second : Filling) : Prop where
  /-- No less is written for the second text. -/
  grows : first.text.length ≤ second.text.length
  /-- No more than so much is added. -/
  within : second.text.length ≤ first.text.length + excess
  /-- Places are numbered in one way. -/
  numbering : first.numbering = second.numbering

/-- A place whose format has no places is filled with two texts alike. -/
theorem fillPlace_alike {place : Place} {levels : Nat} {filling filled filled' : Filling}
    (widens : Widens short long) (bare : (Template.ofText place.format).places = [])
    (shown : fillPlace (fillWithin (.text short) levels) (.text short) filling place = .ok filled)
    (shown' : fillPlace (fillWithin (.text long) levels) (.text long) filling place = .ok filled') :
    filled.Alike (long.length - short.length) filled' := by
  -- The format is the same for both texts.
  simp only [fillPlace, bind_eq_ok_iff] at shown shown'
  obtain ⟨⟨found, next⟩, known, shown⟩ := shown
  obtain ⟨⟨found', next'⟩, known', shown'⟩ := shown'
  obtain ⟨found_alike, rfl⟩ := Place.found_of_find widens known known'
  have written : ∀ {format laid laid' : Text}, found.layOut format = .ok laid →
      found'.layOut format = .ok laid' → ∀ numbering,
        Filling.Alike (long.length - short.length) ⟨filling.text ++ laid, numbering⟩
          ⟨filling.text ++ laid', numbering⟩ := by
    intro format laid laid' made made' numbering
    have length := found_alike.length_layOut_le widens made made'
    exact ⟨by simp; omega, by simp; omega, rfl⟩
  -- A format with places of its own is filled first, and it has none that could differ.
  split at shown
  · rename_i nested
    simp only [nested, if_true, bind_eq_ok_iff] at shown'
    obtain ⟨format, filled_format, shown⟩ := bind_eq_ok_iff.mp shown
    obtain ⟨laid, made, told⟩ := bind_eq_ok_iff.mp shown
    obtain ⟨format', filled_format', laid', made', told'⟩ := shown'
    have same : format = format' := by
      cases levels with
      | zero => cases filled_format
      | succ levels =>
        rw [fillWithin] at filled_format filled_format'
        rcases Template.fillPieces_of_places_eq_nil bare with ⟨text, all⟩ | ⟨error, all⟩
        · rw [all] at filled_format filled_format'
          exact Except.ok.inj (filled_format.symm.trans filled_format')
        · rw [all] at filled_format
          cases filled_format
    subst same
    obtain rfl := Except.ok.inj told
    obtain rfl := Except.ok.inj told'
    exact written made made' _
  · rename_i flat
    simp only [flat] at shown'
    obtain ⟨laid, made, told⟩ := bind_eq_ok_iff.mp shown
    obtain ⟨laid', made', told'⟩ := bind_eq_ok_iff.mp shown'
    obtain rfl := Except.ok.inj told
    obtain rfl := Except.ok.inj told'
    exact written made made' _

/-- A template with one place at most is filled with two texts alike. -/
theorem fillPieces_alike {template : Template} {levels : Nat} {filling filled filled' : Filling}
    (widens : Widens short long) (once : template.insertions ≤ 1)
    (shown : fillPieces (fillWithin (.text short) levels) (.text short) filling template = .ok filled)
    (shown' : fillPieces (fillWithin (.text long) levels) (.text long) filling template =
      .ok filled') :
    filled.Alike (long.length - short.length) filled' := by
  -- Texts are the same up to the place, and again behind it.
  induction template generalizing filling with
  | nil =>
    obtain rfl := Except.ok.inj (shown.symm.trans shown')
    exact ⟨Nat.le_refl _, Nat.le_add_right _ _, rfl⟩
  | cons piece rest ih =>
    cases piece with
    | literal text => exact ih once shown shown'
    | fault error => cases shown
    | place place =>
      -- At most one insertion: this place takes it, so neither its format nor the rest has another.
      have count : 1 + (Template.ofText place.format).places.length + Template.insertions rest ≤ 1 := by
        simpa [Template.insertions, Template.places] using once
      have bare : (Template.ofText place.format).places = [] :=
        List.length_eq_zero_iff.mp (by omega)
      have last : Template.places rest = [] := by
        have fewer := Template.length_places_le rest
        exact List.length_eq_zero_iff.mp (by omega)
      rw [fillPieces] at shown shown'
      -- Up to the place both are filled alike, and the rest is written the same behind both.
      obtain ⟨reached, placed, shown⟩ := bind_eq_ok_iff.mp shown
      obtain ⟨reached', placed', shown'⟩ := bind_eq_ok_iff.mp shown'
      obtain ⟨grows, within, numbering⟩ := fillPlace_alike widens bare placed placed'
      rcases Template.fillPieces_of_places_eq_nil last with ⟨written, made⟩ | ⟨error, failed⟩
      · rw [made] at shown shown'
        obtain rfl := Except.ok.inj shown
        obtain rfl := Except.ok.inj shown'
        exact ⟨by simp [Filling.add]; omega, by simp [Filling.add]; omega, numbering⟩
      · rw [failed] at shown
        cases shown

/-- What a template with one place at most makes of two texts differs in length by no more than the texts. -/
theorem Template.length_fill_of_widens {template : Template} {filled filled' : Text}
    (widens : Widens short long) (once : template.insertions ≤ 1)
    (shown : template.fill (.text short) = .ok filled)
    (shown' : template.fill (.text long) = .ok filled') :
    filled.length ≤ filled'.length ∧
      filled'.length ≤ filled.length + (long.length - short.length) := by
  -- Both fillings are made piece by piece, and related pieces make related fillings.
  rw [fill, map_eq_ok_iff] at shown shown'
  obtain ⟨filling, made, rfl⟩ := shown
  obtain ⟨filling', made', rfl⟩ := shown'
  rw [fillWithin] at made made'
  have alike := fillPieces_alike widens once made made'
  exact ⟨alike.grows, alike.within⟩

/-- A template with one place at most makes no more of a plain text than of another and what it is longer by. -/
theorem Template.length_fill_le {template : Template} {first second filled filled' : Text}
    (plain : ∀ c ∈ first, isPlain c = true) (plain' : ∀ c ∈ second, isPlain c = true)
    (once : template.insertions ≤ 1) (shown : template.fill (.text first) = .ok filled)
    (shown' : template.fill (.text second) = .ok filled') :
    filled'.length ≤ filled.length + (second.length - first.length) := by
  -- Either text may be the longer one.
  rcases Nat.le_total first.length second.length with grows | shrinks
  · exact (length_fill_of_widens ⟨plain, plain', grows⟩ once shown shown').2
  · have smaller := (length_fill_of_widens ⟨plain', plain, shrinks⟩ once shown' shown).1
    omega

end DiceChat
