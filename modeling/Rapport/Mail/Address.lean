import Rapport.Mail.Lexeme
import Rapport.Text.Blank

set_option autoImplicit false

/-! # Addresses of recipients

A recipient of a message is written in many ways: as a bare address, with a display name before the
address in angle brackets, with comments, as a group. `addresses` reads all addresses of a field;
`address` gives the one that a recipient stands for, and the text as it is where it does not stand
for exactly one.

`head` takes the beginning of a field up to the point where it is known what it is: a mailbox or
the opening of a group. It always takes at least one character (`length_head_lt`), so the loops over
a field end.

Comments and groups may be nested to any depth here. A library that reads a field by recursion gives
up, with an error, on one that nests several hundreds of them; this limit is left out, and such a
field is read like any other. -/

namespace Rapport.Mail

open Rapport.Text

/-! ## Display names -/

/-- Take the words of a display name: quoted strings, and runs of characters up to a special one
    other than a point. -/
def words : List Char → List (List Char) × List Char
  | [] => ([], [])
  | c :: rest =>
    if isFolding c then words rest
    else if c = '"' then
      let quotation := upTo '"' rest
      let more := words quotation.2
      (quotation.1 :: more.1, more.2)
    else if c = '(' then words (afterComment 1 rest)
    else if endsWord c then ([], c :: rest)
    else
      let more := words (rest.dropWhile (!endsWord ·))
      ((c :: rest.takeWhile (!endsWord ·)) :: more.1, more.2)
termination_by cs => cs.length
decreasing_by
  all_goals simp only [List.length_cons]
  · omega
  · have := length_upTo_le '"' rest; omega
  · have := length_afterComment_le 1 rest; omega
  · have := length_dropWhile_le (!endsWord ·) rest; omega

theorem length_words_le (cs : List Char) : (words cs).2.length ≤ cs.length := by
  fun_induction words cs with
  | case1 => exact Nat.le_refl _
  | case2 c rest _ ih => simp only [List.length_cons]; omega
  | case3 rest quotation more _ ih =>
    have : more.2.length ≤ quotation.2.length := ih
    have : quotation.2.length ≤ rest.length := length_upTo_le '"' rest
    simp only [List.length_cons]
    omega
  | case4 rest _ _ ih =>
    have := length_afterComment_le 1 rest
    simp only [List.length_cons]
    omega
  | case5 => exact Nat.le_refl _
  | case6 c rest _ _ _ _ more ih =>
    have : more.2.length ≤ _ := ih
    have := length_dropWhile_le (!endsWord ·) rest
    simp only [List.length_cons]
    omega

/-! ## Domains -/

/-- Take a domain, of which `taken` has been read. A second at sign makes it no domain at all. -/
def domain (taken : List Char) : List Char → List Char × List Char
  | [] => (taken, [])
  | c :: rest =>
    if isSpace c then domain taken rest
    else if c = '(' then domain taken (afterComment 1 rest)
    else if c = '[' then
      let literal := upTo ']' rest
      domain (taken ++ '[' :: literal.1 ++ [']']) literal.2
    else if c = '@' then ([], c :: rest)
    else if c != '.' && endsAtom c then (taken, c :: rest)
    else domain (taken ++ [c]) rest
termination_by cs => cs.length
decreasing_by
  all_goals simp only [List.length_cons]
  · omega
  · have := length_afterComment_le 1 rest; omega
  · have := length_upTo_le ']' rest; omega
  · omega

theorem length_domain_le (taken cs : List Char) : (domain taken cs).2.length ≤ cs.length := by
  fun_induction domain taken cs with
  | case1 => exact Nat.le_refl _
  | case2 taken c rest _ ih => simp only [List.length_cons]; omega
  | case3 taken rest _ ih =>
    have := length_afterComment_le 1 rest
    simp only [List.length_cons]
    omega
  | case4 taken rest literal _ _ ih =>
    have : literal.2.length ≤ rest.length := length_upTo_le ']' rest
    simp only [List.length_cons]
    omega
  | case5 => exact Nat.le_refl _
  | case6 => exact Nat.le_refl _
  | case7 taken c rest _ _ _ _ _ ih => simp only [List.length_cons]; omega

/-! ## Addresses proper -/

/-- A quoted string as it stands in an address: its quotes and backslashes with a backslash. -/
def requoted (text : List Char) : List Char :=
  '"' :: text.flatMap (fun c => if c = '"' ∨ c = '\\' then ['\\', c] else [c]) ++ ['"']

/-- The pieces of a local part, last one first, without a blank one at the end. -/
def dropBlank : List (List Char) → List (List Char)
  | [] => []
  | piece :: pieces => if piece.all isBlank then pieces else piece :: pieces

/-- Add blanks to the pieces of a local part, if there are any. -/
def addBlanks (blanks : List Char) (pieces : List (List Char)) : List (List Char) :=
  if blanks.isEmpty then pieces else blanks :: pieces

/-- Take a local part, of which `pieces` have been read, last one first. Blanks between its pieces
    belong to it, except around a point and at the end. -/
def localPart (pieces : List (List Char)) : List Char → List (List Char) × List Char
  | [] => (pieces, [])
  | c :: rest =>
    if c = '.' then localPart (['.'] :: dropBlank pieces) (skip rest).2
    else if c = '"' then
      let quotation := upTo '"' rest
      let next := skip quotation.2
      localPart (addBlanks next.1 (requoted quotation.1 :: pieces)) next.2
    else if endsAtom c then (dropBlank pieces, c :: rest)
    else
      let next := skip (rest.dropWhile (!endsAtom ·))
      localPart (addBlanks next.1 ((c :: rest.takeWhile (!endsAtom ·)) :: pieces)) next.2
termination_by cs => cs.length
decreasing_by
  all_goals simp only [List.length_cons]
  · have := length_skip_le rest; omega
  · have := length_skip_le (upTo '"' rest).2
    have := length_upTo_le '"' rest
    omega
  · have := length_skip_le (rest.dropWhile (!endsAtom ·))
    have := length_dropWhile_le (!endsAtom ·) rest
    omega

theorem length_localPart_le (pieces : List (List Char)) (cs : List Char) :
    (localPart pieces cs).2.length ≤ cs.length := by
  fun_induction localPart pieces cs with
  | case1 => exact Nat.le_refl _
  | case2 pieces rest ih =>
    have := length_skip_le rest
    simp only [List.length_cons]
    omega
  | case3 pieces rest quotation next _ ih =>
    have : next.2.length ≤ quotation.2.length := length_skip_le quotation.2
    have : quotation.2.length ≤ rest.length := length_upTo_le '"' rest
    simp only [List.length_cons]
    omega
  | case4 => exact Nat.le_refl _
  | case5 pieces c rest _ _ _ next ih =>
    have : next.2.length ≤ _ := length_skip_le (rest.dropWhile (!endsAtom ·))
    have := length_dropWhile_le (!endsAtom ·) rest
    simp only [List.length_cons]
    omega

/-- Take an address: a local part and, after an at sign, a domain. Without a proper domain it is
    empty. -/
def spec (cs : List Char) : List Char × List Char :=
  let front := localPart [] (skip cs).2
  let text := front.1.reverse.flatten
  match front.2 with
  | '@' :: rest =>
    let back := domain [] (skip rest).2
    (if back.1.isEmpty then [] else text ++ '@' :: back.1, back.2)
  | rest => (text, rest)

theorem length_spec_le (cs : List Char) : (spec cs).2.length ≤ cs.length := by
  have hfront := length_localPart_le [] (skip cs).2
  have hskip := length_skip_le cs
  simp only [spec]
  split
  · next rest heq =>
    have := length_domain_le [] (skip rest).2
    have := length_skip_le rest
    rw [heq, List.length_cons] at hfront
    dsimp only
    omega
  · dsimp only
    omega

/-- Take what stands between angle brackets: hosts to pass through, which are dropped, and the
    address. The opening bracket has been read. -/
def bracketed : List Char → List Char × List Char
  | [] => ([], [])
  | c :: rest =>
    if c = '>' then ([], rest)
    else if c = '@' then bracketed (skip (domain [] (skip rest).2).2).2
    else if c = ':' then bracketed (skip rest).2
    else
      let found := spec (c :: rest)
      (found.1, found.2.drop 1)
termination_by cs => cs.length
decreasing_by
  all_goals simp only [List.length_cons]
  · have := length_skip_le (domain [] (skip rest).2).2
    have := length_domain_le [] (skip rest).2
    have := length_skip_le rest
    omega
  · have := length_skip_le rest; omega

theorem length_bracketed_le (cs : List Char) : (bracketed cs).2.length ≤ cs.length := by
  fun_induction bracketed cs with
  | case1 => exact Nat.le_refl _
  | case2 => simp only [List.length_cons]; omega
  | case3 rest _ ih =>
    have := length_skip_le (domain [] (skip rest).2).2
    have := length_domain_le [] (skip rest).2
    have := length_skip_le rest
    simp only [List.length_cons]
    omega
  | case4 rest _ _ ih =>
    have := length_skip_le rest
    simp only [List.length_cons]
    omega
  | case5 c rest _ _ _ found =>
    have : found.2.length ≤ (c :: rest).length := length_spec_le (c :: rest)
    simp only [List.length_drop]
    omega

/-! ## The beginning of a field -/

/-- What a field begins with. -/
inductive Head
  /-- A mailbox with its address, if there is anything to it, and what follows. -/
  | mailbox (address : Option (List Char)) (rest : List Char)
  /-- The name of a group; its members follow. -/
  | group (rest : List Char)

/-- What follows the beginning of a field. -/
def Head.rest : Head → List Char
  | mailbox _ rest => rest
  | group rest => rest

/-- Take the beginning of a field. Where the first words are followed by an at sign they were the
    start of an address, which is read again as one. -/
def head (field : List Char) : Head :=
  let start := (skip field).2
  let name := words start
  match (skip name.2).2 with
  | [] => .mailbox name.1.head? []
  | c :: rest =>
    if c = '@' then
      let found := spec start
      .mailbox (some found.1) found.2
    else if c = ':' then .group rest
    else if c = '<' then
      let found := bracketed (skip rest).2
      .mailbox (some found.1) found.2
    else match name.1 with
      | [] => .mailbox none rest
      | word :: _ => .mailbox (some word) (c :: rest)

/-! Taking the beginning of a field takes something of it. -/

/-- Skipping stops in front of something that is not skipped. -/
theorem not_skipped {cs rest : List Char} {c : Char} (h : (skip cs).2 = c :: rest) :
    isFolding c = false ∧ c ≠ '(' := by
  fun_induction skip cs with
  | case1 => simp at h
  | case2 c' rest' _ more ih => exact ih h
  | case3 c' rest' _ _ ih => exact ih h
  | case4 rest' _ _ ih => exact ih h
  | case5 c' rest' _ hfold hparen =>
    obtain ⟨rfl, _⟩ := List.cons.inj h
    exact ⟨Bool.eq_false_iff.2 hfold, hparen⟩

theorem length_words_lt {cs : List Char} (h : (words cs).1 ≠ []) :
    (words cs).2.length < cs.length := by
  fun_induction words cs with
  | case1 => simp at h
  | case2 c rest _ ih => exact Nat.lt_trans (ih h) (Nat.lt_succ_self _)
  | case3 rest quotation more _ _ =>
    have : more.2.length ≤ quotation.2.length := length_words_le quotation.2
    have : quotation.2.length ≤ rest.length := length_upTo_le '"' rest
    simp only [List.length_cons]
    omega
  | case4 rest _ _ ih =>
    have := ih h
    have := length_afterComment_le 1 rest
    simp only [List.length_cons]
    omega
  | case5 => simp at h
  | case6 c rest _ _ _ _ more _ =>
    have : more.2.length ≤ _ := length_words_le (rest.dropWhile (!endsWord ·))
    have := length_dropWhile_le (!endsWord ·) rest
    simp only [List.length_cons]
    omega

theorem length_localPart_lt (pieces : List (List Char)) {c : Char} (rest : List Char)
    (h : c = '.' ∨ c = '"' ∨ endsAtom c = false) :
    (localPart pieces (c :: rest)).2.length ≤ rest.length := by
  rw [localPart]
  split
  · exact Nat.le_trans (length_localPart_le _ _) (length_skip_le rest)
  · split
    · exact Nat.le_trans (length_localPart_le _ _)
        (Nat.le_trans (length_skip_le _) (length_upTo_le '"' rest))
    · have hatom : endsAtom c = false := by simp_all
      simp only [hatom, Bool.false_eq_true, if_false]
      exact Nat.le_trans (length_localPart_le _ _)
        (Nat.le_trans (length_skip_le _) (length_dropWhile_le _ rest))

/-- An address takes at least one character of a text that opens with one of an address. -/
theorem length_spec_lt {c : Char} {rest : List Char} (hfold : isFolding c = false)
    (hparen : c ≠ '(') (h : c = '@' ∨ c = '.' ∨ c = '"' ∨ endsAtom c = false) :
    (spec (c :: rest)).2.length < (c :: rest).length := by
  have hskip : (skip (c :: rest)).2 = c :: rest := by
    have hspace : isSpace c = false := by
      rw [isFolding, Bool.or_eq_false_iff, Bool.or_eq_false_iff] at hfold
      exact hfold.1.1
    simp [skip, hspace, hfold, hparen]
  rcases h with rfl | h
  · have hat : localPart [] ('@' :: rest) = ([], '@' :: rest) := by
      rw [localPart]
      simp [endsAtom, isSpecial, dropBlank]
    simp only [spec, hskip, hat, List.length_cons]
    have := length_domain_le [] (skip rest).2
    have := length_skip_le rest
    omega
  · have hlocal := length_localPart_lt [] rest h
    simp only [spec, hskip]
    split
    · next after heq =>
      have := length_domain_le [] (skip after).2
      have := length_skip_le after
      rw [heq, List.length_cons] at hlocal
      simp only [List.length_cons]
      omega
    · simp only [List.length_cons]
      omega

/-- A text that opens with a word, or with the at sign itself, opens with a character of an
    address. -/
theorem opens_address {c : Char} {rest : List Char} (hfold : isFolding c = false) (hparen : c ≠ '(')
    (h : (skip (words (c :: rest)).2).2.head? = some '@') :
    c = '@' ∨ c = '.' ∨ c = '"' ∨ endsAtom c = false := by
  by_cases hquote : c = '"'
  · exact .inr (.inr (.inl hquote))
  · by_cases hword : endsWord c = true
    · have hspace : isSpace c = false := by
        rw [isFolding, Bool.or_eq_false_iff, Bool.or_eq_false_iff] at hfold
        exact hfold.1.1
      rw [words] at h
      simp only [hfold, hquote, hparen, hword, Bool.false_eq_true, if_false, if_true, skip, hspace,
        List.head?_cons, Option.some.injEq] at h
      exact .inl h
    · by_cases hatom : endsAtom c = true
      · have : c = '.' := by simpa [endsWord, hatom] using hword
        exact .inr (.inl this)
      · exact .inr (.inr (.inr (Bool.eq_false_iff.2 hatom)))

/-- The beginning of a field takes at least one character of it. -/
theorem length_head_lt {field : List Char} (h : field ≠ []) :
    (head field).rest.length < field.length := by
  have hpos : 0 < field.length := List.length_pos_iff.2 h
  have hstart := length_skip_le field
  have hname := length_words_le (skip field).2
  have hnext := length_skip_le (words (skip field).2).2
  simp only [head]
  split
  · simpa [Head.rest] using hpos
  · next c rest heq =>
    rw [heq, List.length_cons] at hnext
    split
    · next hat =>
      have hne : (skip field).2 ≠ [] := by
        intro hnil
        rw [hnil, words, skip] at heq
        exact absurd heq (by simp)
      obtain ⟨d, more, hd⟩ := List.exists_cons_of_ne_nil hne
      obtain ⟨hfold, hparen⟩ := not_skipped hd
      rw [hd] at heq hstart ⊢
      have hopen := opens_address hfold hparen (by rw [heq, hat, List.head?_cons])
      exact Nat.lt_of_lt_of_le (length_spec_lt hfold hparen hopen) hstart
    · split
      · simp only [Head.rest]; omega
      · split
        · simp only [Head.rest]
          have := length_bracketed_le (skip rest).2
          have := length_skip_le rest
          omega
        · split
          · simp only [Head.rest]; omega
          · next hwords =>
            have hsome : (words (skip field).2).1 ≠ [] := hwords ▸ List.cons_ne_nil _ _
            have := length_words_lt hsome
            simp only [Head.rest, List.length_cons]
            omega

/-! ## Whole fields -/

/-- What follows a mailbox or a group, without the comma that sets it off. -/
def afterComma (cs : List Char) : List Char :=
  match (skip cs).2 with
  | ',' :: rest => rest
  | rest => rest

theorem length_afterComma_le (cs : List Char) : (afterComma cs).length ≤ cs.length := by
  have := length_skip_le cs
  unfold afterComma
  split
  · next rest heq => rw [heq, List.length_cons] at this; omega
  · omega

/-- Take the members of the innermost of `depth` open groups, and what is left of the groups around
    it. Groups may stand in groups; all members are addresses of the field. -/
def members : Nat → List Char → List (List Char) × List Char
  | 0, cs => ([], cs)
  | depth + 1, cs =>
    match _hnext : (skip cs).2 with
    | [] => ([], [])
    | c :: rest =>
      if c = ';' then members depth (afterComma rest)
      else
        match hhead : head (c :: rest) with
        | .mailbox address rest' =>
          let more := members (depth + 1) (afterComma rest')
          (address.toList ++ more.1, more.2)
        | .group rest' => members (depth + 2) rest'
termination_by _ cs => cs.length
decreasing_by
  all_goals
    have hskip := length_skip_le cs
    rw [_hnext, List.length_cons] at hskip
  · have := length_afterComma_le rest; omega
  · have := length_head_lt (List.cons_ne_nil c rest)
    rw [hhead, Head.rest, List.length_cons] at this
    have := length_afterComma_le rest'
    omega
  · have := length_head_lt (List.cons_ne_nil c rest)
    rw [hhead, Head.rest, List.length_cons] at this
    omega

theorem length_members_le (depth : Nat) (cs : List Char) :
    (members depth cs).2.length ≤ cs.length := by
  fun_induction members depth cs with
  | case1 => exact Nat.le_refl _
  | case2 => exact Nat.zero_le _
  | case3 depth cs rest hnext ih =>
    have hskip := length_skip_le cs
    rw [hnext, List.length_cons] at hskip
    have := length_afterComma_le rest
    omega
  | case4 depth cs c rest hnext _ address rest' hhead more ih =>
    have : more.2.length ≤ _ := ih
    have hskip := length_skip_le cs
    rw [hnext, List.length_cons] at hskip
    have := length_head_lt (List.cons_ne_nil c rest)
    rw [hhead, Head.rest, List.length_cons] at this
    have := length_afterComma_le rest'
    show more.2.length ≤ cs.length
    omega
  | case5 depth cs c rest hnext _ rest' hhead ih =>
    have hskip := length_skip_le cs
    rw [hnext, List.length_cons] at hskip
    have := length_head_lt (List.cons_ne_nil c rest)
    rw [hhead, Head.rest, List.length_cons] at this
    omega

/-- The addresses that the first entry of a field stands for, and what follows it. An entry without
    an address counts as an empty one. -/
def entry (field : List Char) : List (List Char) × List Char :=
  let found := match head field with
    | .mailbox address rest => (address.toList, afterComma rest)
    | .group rest => members 1 rest
  (if found.1.isEmpty then [[]] else found.1, found.2)

theorem length_entry_lt {field : List Char} (h : field ≠ []) :
    (entry field).2.length < field.length := by
  have hlt := length_head_lt h
  simp only [entry]
  split
  · next address rest heq =>
    rw [heq, Head.rest] at hlt
    exact Nat.lt_of_le_of_lt (length_afterComma_le rest) hlt
  · next rest heq =>
    rw [heq, Head.rest] at hlt
    exact Nat.lt_of_le_of_lt (length_members_le 1 rest) hlt

/-- All addresses of a field. -/
def addresses (field : List Char) : List (List Char) :=
  if _h : field = [] then []
  else
    let found := entry field
    found.1 ++ addresses found.2
termination_by field.length
decreasing_by exact length_entry_lt _h

/-- Whether the parentheses of a field outside its quotations match. -/
def wellNested (field : List Char) : Bool := balanced 0 (withoutQuotations none field)

/-- The one address that a field stands for, if it is well nested and stands for exactly one that
    holds no opening of a domain literal. -/
def soleAddress? (field : List Char) : Option (List Char) :=
  if wellNested field then
    match addresses field with
    | [address] => if address.isEmpty || address.contains '[' then none else some address
    | _ => none
  else none

/-- The address that a recipient stands for, or the recipient as it is, without the blanks around
    it. -/
def address (recipient : String) : String :=
  let cs := recipient.toList
  Text.strip (String.ofList ((soleAddress? cs).getD cs))

end Rapport.Mail
