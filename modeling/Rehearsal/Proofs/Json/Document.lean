import Rehearsal.Proofs.Json.Invariant
import Rehearsal.Proofs.Json.Number
import Rehearsal.Proofs.Json.Value

/-!
# Documents are read by the grammar

The reader of values accepts what the grammar derives, and nothing else: `parse_eq_ok_iff`.
From the front of a text a reader takes what a production takes, and the other way round where
no number can go on behind it; `Follows` says this of readers of values. It goes from the
values in a list or an object to the list or the object, as the comma or the bracket behind a
value ends it, and so from one depth to the next.
-/

namespace Rehearsal.Json

open Text

section Spaces

variable {cs text middle rest more : List Char} {c : Char}

theorem Space.refl (text : List Char) : Space text text := ⟨[], List.forall_mem_nil _, rfl⟩

theorem Space.trans (h : Space text middle) (h' : Space middle rest) : Space text rest := by
  obtain ⟨first, blank, rfl⟩ := h
  obtain ⟨second, blank', rfl⟩ := h'
  exact ⟨first ++ second, List.forall_mem_append.mpr ⟨blank, blank'⟩,
    (List.append_assoc ..).symm⟩

theorem Space.length_le (h : Space text rest) : rest.length ≤ text.length := by
  obtain ⟨space, -, rfl⟩ := h
  rw [List.length_append]
  exact Nat.le_add_left _ _

theorem Space.skipSpace_eq (h : Space text (c :: rest)) (some : isSpace c = false) :
    skipSpace text = c :: rest := by
  obtain ⟨space, blank, rfl⟩ := h
  exact skipSpace_append blank some rest

theorem Space.skipSpace_eq_nil (h : Space text []) : skipSpace text = [] := by
  obtain ⟨space, blank, rfl⟩ := h
  rw [skipSpace, List.dropWhile_append_of_pos blank]
  rfl

/-- What skipping space leaves has nothing but space in front of it. -/
theorem space_skipSpace (cs : List Char) : Space cs (skipSpace cs) :=
  ⟨cs.takeWhile isSpace, List.all_eq_true.mp List.all_takeWhile,
    List.takeWhile_append_dropWhile.symm⟩

theorem space_of_eq (h : skipSpace cs = rest) : Space cs rest := h ▸ space_skipSpace cs

/-- In front of what ends a value there can be space. -/
theorem Space.ends (h : Space text (c :: rest)) (stop : c = ',' ∨ c = ']' ∨ c = '\x7d') :
    Ends text := by
  obtain ⟨space, blank, rfl⟩ := h
  intro d more same
  cases space with
  | nil =>
    obtain ⟨rfl, -⟩ := List.cons.inj same
    exact .inr stop
  | cons e space =>
    obtain ⟨rfl, -⟩ := List.cons.inj same
    exact .inl (blank e List.mem_cons_self)

theorem Space.ends_nil (h : Space text []) : Ends text := by
  obtain ⟨space, blank, rfl⟩ := h
  intro d more same
  rw [List.append_nil] at same
  exact .inl (blank d (same ▸ List.mem_cons_self))

end Spaces

section Sequences

variable {α : Type} {item : Production α} {last : Char} {text rest : List Char} {xs : List α}

theorem Tail.ends (h : Tail item last text xs rest) (closes : last = ']' ∨ last = '\x7d') :
    Ends text := by
  cases h with
  | close space => exact space.ends (.inr closes)
  | more comma => exact comma.ends (.inl rfl)

theorem Tail.length_lt (h : Tail item last text xs rest)
    (shorter : ∀ {text x rest}, item text x rest → rest.length < text.length) :
    rest.length < text.length := by
  induction h with
  | close space => exact space.length_le
  | more comma first _ ih =>
    have front := comma.length_le
    have one := shorter first
    rw [List.length_cons] at front
    omega

theorem Sequence.length_lt (h : Sequence item last text xs rest)
    (shorter : ∀ {text x rest}, item text x rest → rest.length < text.length) :
    rest.length < text.length := by
  cases h with
  | empty space => exact space.length_le
  | items first others => exact Nat.lt_trans (others.length_lt shorter) (shorter first)

end Sequences

/-- A reader takes off the front of a text what a production has there, and leaves the same. -/
structure Follows (reader : Reader Json) (value : Production Json) : Prop where
  starts : ∀ {text v rest}, value text v rest →
    ∃ c more, text = c :: more ∧ isSpace c = false ∧ c ≠ ']'
  shorter : ∀ {text v rest}, value text v rest → rest.length < text.length
  sound : ∀ {cs v rest}, reader cs = .ok (v, rest) → Item value cs v rest
  complete : ∀ {cs v rest}, Item value cs v rest → Ends rest → reader cs = .ok (v, rest)

/-- An item can stand behind more space. -/
theorem Item.behind {value : Production Json} {text middle rest : List Char} {v : Json}
    (item : Item value middle v rest) (space : Space text middle) : Item value text v rest := by
  cases item with
  | value more made => exact .value (space.trans more) made

section Values

variable {reader : Reader Json} {value : Production Json} {cs text rest more : List Char}
variable {v : Json} {vs : List Json} {fuel : Nat} {first : Bool}

theorem Follows.item_shorter (h : Follows reader value) (item : Item value text v rest) :
    rest.length < text.length := by
  cases item with
  | value space made => exact Nat.lt_of_lt_of_le (h.shorter made) space.length_le

/-! ### Lists -/

theorem space_of_finished (h : nextItem first cs = .ok (.finished rest)) :
    Space cs (']' :: rest) := by
  unfold nextItem at h
  split at h
  · nomatch h
  next same =>
    obtain rfl := Next.finished.inj (Except.ok.inj h)
    exact space_of_eq same
  · split at h
    · nomatch h
    · split at h
      · split at h <;> nomatch h
      · nomatch h

theorem space_of_first (h : nextItem true cs = .ok (.more more)) : Space cs more := by
  unfold nextItem at h
  split at h
  · nomatch h
  · nomatch h
  next same =>
    obtain rfl := Next.more.inj (Except.ok.inj h)
    exact space_of_eq same

theorem space_of_next (h : nextItem false cs = .ok (.more more)) :
    ∃ next, Space cs (',' :: next) ∧ Space next more := by
  unfold nextItem at h
  split at h
  · nomatch h
  · nomatch h
  next c next _ same =>
    rw [if_neg Bool.false_ne_true] at h
    split at h
    next comma =>
      subst comma
      split at h
      · nomatch h
      · nomatch h
      · obtain rfl := Next.more.inj (Except.ok.inj h)
        exact ⟨next, space_of_eq same, space_skipSpace next⟩
    · nomatch h

theorem nextItem_close (h : Space cs (']' :: rest)) : nextItem first cs = .ok (.finished rest) := by
  obtain ⟨space, blank, rfl⟩ := h
  exact nextItem_end blank first rest

theorem Follows.nextItem_first (h : Follows reader value) (space : Space cs text)
    (made : value text v rest) : nextItem true cs = .ok (.more text) := by
  obtain ⟨c, more, rfl, some, open_⟩ := h.starts made
  rw [nextItem, space.skipSpace_eq some]
  split
  · contradiction
  next same => exact absurd (List.cons.inj same).1 open_
  next same =>
    obtain ⟨rfl, rfl⟩ := List.cons.inj same
    rfl

theorem Follows.nextItem_comma {next : List Char} (h : Follows reader value)
    (comma : Space cs (',' :: next)) (space : Space next text) (made : value text v rest) :
    nextItem false cs = .ok (.more text) := by
  obtain ⟨c, more, rfl, some, open_⟩ := h.starts made
  rw [nextItem, comma.skipSpace_eq rfl]
  split
  · contradiction
  next same => exact absurd (List.cons.inj same).1 (by decide)
  next same =>
    obtain ⟨rfl, rfl⟩ := List.cons.inj same
    rw [if_neg Bool.false_ne_true, if_pos rfl, space.skipSpace_eq some]
    split
    · contradiction
    next same => exact absurd (List.cons.inj same).1 open_
    · rfl

/-- What is read behind the items of a list are commas and items, up to the bracket. -/
theorem Follows.tail_of_items (h : Follows reader value)
    (read : items reader fuel false cs = .ok (vs, rest)) :
    Tail (Item value) ']' cs vs rest := by
  induction fuel generalizing cs vs with
  | zero => nomatch read
  | succ fuel ih =>
    rw [items] at read
    obtain ⟨next, found, read⟩ := bind_eq_ok_iff.mp read
    cases next with
    | finished =>
      obtain ⟨rfl, rfl⟩ := Prod.mk.inj (Except.ok.inj read)
      exact .close (space_of_finished found)
    | more more =>
      obtain ⟨⟨v, middle⟩, one, read⟩ := bind_eq_ok_iff.mp read
      obtain ⟨⟨vs, rest⟩, others, made⟩ := bind_eq_ok_iff.mp read
      obtain ⟨rfl, rfl⟩ := Prod.mk.inj (Except.ok.inj made)
      obtain ⟨behind, comma, space⟩ := space_of_next found
      exact .more comma ((h.sound one).behind space) (ih others)

theorem Follows.sequence_of_items (h : Follows reader value)
    (read : items reader fuel true cs = .ok (vs, rest)) :
    Sequence (Item value) ']' cs vs rest := by
  cases fuel with
  | zero => nomatch read
  | succ fuel =>
    rw [items] at read
    obtain ⟨next, found, read⟩ := bind_eq_ok_iff.mp read
    cases next with
    | finished =>
      obtain ⟨rfl, rfl⟩ := Prod.mk.inj (Except.ok.inj read)
      exact .empty (space_of_finished found)
    | more more =>
      obtain ⟨⟨v, middle⟩, one, read⟩ := bind_eq_ok_iff.mp read
      obtain ⟨⟨vs, rest⟩, others, made⟩ := bind_eq_ok_iff.mp read
      obtain ⟨rfl, rfl⟩ := Prod.mk.inj (Except.ok.inj made)
      exact .items ((h.sound one).behind (space_of_first found)) (h.tail_of_items others)

/-- With fuel for all of the text, the items of a list are read up to the bracket. -/
theorem Follows.items_of_tail (h : Follows reader value)
    (tail : Tail (Item value) ']' cs vs rest) (enough : cs.length < fuel) :
    items reader fuel false cs = .ok (vs, rest) := by
  induction tail generalizing fuel with
  | close space =>
    obtain ⟨fuel, rfl⟩ := Nat.exists_eq_add_of_lt enough
    rw [items, nextItem_close space]
    rfl
  | more comma one others ih =>
    obtain ⟨fuel, rfl⟩ := Nat.exists_eq_add_of_lt enough
    have shorter := h.item_shorter one
    have front := comma.length_le
    rw [List.length_cons] at front
    obtain ⟨space, made⟩ := one
    rw [items_more (h.nextItem_comma comma space made)
      (h.complete (.value (.refl _) made) (others.ends (.inl rfl))), ih (by omega)]
    rfl

theorem Follows.items_of_sequence (h : Follows reader value)
    (sequence : Sequence (Item value) ']' cs vs rest) (enough : cs.length < fuel) :
    items reader fuel true cs = .ok (vs, rest) := by
  obtain ⟨fuel, rfl⟩ := Nat.exists_eq_add_of_lt enough
  cases sequence with
  | empty space =>
    rw [items, nextItem_close space]
    rfl
  | items one others =>
    have shorter := h.item_shorter one
    obtain ⟨space, made⟩ := one
    rw [items_more (h.nextItem_first space made)
      (h.complete (.value (.refl _) made) (others.ends (.inl rfl))),
      h.items_of_tail others (by omega)]
    rfl

/-! ### Objects -/

theorem space_of_lastKey (h : nextKey first cs = .ok (.finished rest)) :
    Space cs ('\x7d' :: rest) := by
  unfold nextKey at h
  split at h
  · nomatch h
  next same =>
    obtain rfl := Next.finished.inj (Except.ok.inj h)
    exact space_of_eq same
  · split at h
    · split at h <;> nomatch h
    · split at h
      · split at h <;> nomatch h
      · nomatch h

theorem space_of_firstKey (h : nextKey true cs = .ok (.more more)) : Space cs ('"' :: more) := by
  unfold nextKey at h
  split at h
  · nomatch h
  · nomatch h
  next same =>
    rw [if_pos rfl] at h
    split at h
    next quote =>
      obtain rfl := Next.more.inj (Except.ok.inj h)
      exact quote ▸ space_of_eq same
    · nomatch h

theorem space_of_nextKey (h : nextKey false cs = .ok (.more more)) :
    ∃ next, Space cs (',' :: next) ∧ Space next ('"' :: more) := by
  unfold nextKey at h
  split at h
  · nomatch h
  · nomatch h
  next c next _ same =>
    rw [if_neg Bool.false_ne_true] at h
    split at h
    next comma =>
      subst comma
      split at h
      · nomatch h
      next quote =>
        obtain rfl := Next.more.inj (Except.ok.inj h)
        exact ⟨next, space_of_eq same, space_of_eq quote⟩
      · nomatch h
      · nomatch h
    · nomatch h

theorem nextKey_close (h : Space cs ('\x7d' :: rest)) :
    nextKey first cs = .ok (.finished rest) := by
  obtain ⟨space, blank, rfl⟩ := h
  exact nextKey_end blank first rest

theorem nextKey_quote (h : Space cs ('"' :: more)) : nextKey true cs = .ok (.more more) := by
  obtain ⟨space, blank, rfl⟩ := h
  exact nextKey_first blank more

theorem nextKey_behind {next : List Char} (comma : Space cs (',' :: next))
    (space : Space next ('"' :: more)) : nextKey false cs = .ok (.more more) := by
  have start : nextKey false cs = nextKey false (',' :: next) := by
    rw [nextKey, nextKey, comma.skipSpace_eq rfl, skipSpace_cons rfl]
  obtain ⟨gap, blank, rfl⟩ := space
  rw [start, nextKey_comma blank]

theorem colon_eq_ok_iff : colon cs = .ok rest ↔ Space cs (':' :: rest) := by
  constructor
  · intro h
    unfold colon at h
    split at h
    next same =>
      obtain rfl := Except.ok.inj h
      exact space_of_eq same
    · nomatch h
    · nomatch h
  · intro h
    rw [colon, h.skipSpace_eq rfl]
    rfl

/-- Fields with others put in their places among them. -/
abbrev withFields (fields added : List (String × Json)) : List (String × Json) :=
  added.foldl (fun sorted field => insertField field.1 field.2 sorted) fields

theorem Follows.member_shorter {field : String × Json} (h : Follows reader value)
    (member : Member value text field rest) : rest.length < text.length := by
  obtain ⟨space, chars, colon, item⟩ := member
  have front := space.length_le
  have name := chars.length_lt
  have middle := colon.length_le
  have last := h.item_shorter item
  simp only [List.length_cons] at *
  omega

/-- What is put among the fields of an object under a key is the value of a member. -/
theorem Follows.member_of_placeField {fields out : List (String × Json)} {key : String}
    {name middle : List Char} (h : Follows reader value) (space : Space text ('"' :: name))
    (named : string name = .ok (key, middle))
    (placed : placeField reader fields key middle = .ok (out, rest)) :
    ∃ v, Member value text (key, v) rest ∧ out = insertField key v fields := by
  obtain ⟨behind, colon, placed⟩ := bind_eq_ok_iff.mp placed
  obtain ⟨⟨v, rest⟩, read, placed⟩ := bind_eq_ok_iff.mp placed
  obtain ⟨rfl, rfl⟩ := Prod.mk.inj (Except.ok.inj placed)
  exact ⟨v, .field space (string_eq_ok_iff.mp named) (colon_eq_ok_iff.mp colon) (h.sound read), rfl⟩

/-- What is read behind the members of an object are commas and members, up to the bracket. -/
theorem Follows.tail_of_members {fields out : List (String × Json)} (h : Follows reader value)
    (read : members (placeField reader) fuel false fields cs = .ok (out, rest)) :
    ∃ added, Tail (Member value) '\x7d' cs added rest ∧ out = withFields fields added := by
  induction fuel generalizing cs fields with
  | zero => nomatch read
  | succ fuel ih =>
    rw [members] at read
    obtain ⟨next, found, read⟩ := bind_eq_ok_iff.mp read
    cases next with
    | finished =>
      obtain ⟨rfl, rfl⟩ := Prod.mk.inj (Except.ok.inj read)
      exact ⟨[], .close (space_of_lastKey found), rfl⟩
    | more more =>
      obtain ⟨⟨key, middle⟩, named, read⟩ := bind_eq_ok_iff.mp read
      obtain ⟨⟨placed, behind⟩, one, read⟩ := bind_eq_ok_iff.mp read
      obtain ⟨next, comma, space⟩ := space_of_nextKey found
      obtain ⟨v, member, rfl⟩ := h.member_of_placeField space named one
      obtain ⟨added, others, rfl⟩ := ih read
      exact ⟨(key, v) :: added, .more comma member others, rfl⟩

theorem Follows.sequence_of_members {fields out : List (String × Json)}
    (h : Follows reader value)
    (read : members (placeField reader) fuel true fields cs = .ok (out, rest)) :
    ∃ added, Sequence (Member value) '\x7d' cs added rest ∧ out = withFields fields added := by
  cases fuel with
  | zero => nomatch read
  | succ fuel =>
    rw [members] at read
    obtain ⟨next, found, read⟩ := bind_eq_ok_iff.mp read
    cases next with
    | finished =>
      obtain ⟨rfl, rfl⟩ := Prod.mk.inj (Except.ok.inj read)
      exact ⟨[], .empty (space_of_lastKey found), rfl⟩
    | more more =>
      obtain ⟨⟨key, middle⟩, named, read⟩ := bind_eq_ok_iff.mp read
      obtain ⟨⟨placed, behind⟩, one, read⟩ := bind_eq_ok_iff.mp read
      obtain ⟨v, member, rfl⟩ := h.member_of_placeField (space_of_firstKey found) named one
      obtain ⟨added, others, rfl⟩ := h.tail_of_members read
      exact ⟨(key, v) :: added, .items member others, rfl⟩

/-- One more member is read and put in its place. -/
theorem Follows.members_member {fields : List (String × Json)} {key : String}
    {name middle behind : List Char} (h : Follows reader value)
    (next : nextKey first cs = .ok (.more name)) (chars : Chars name key.toList middle)
    (colon : Space middle (':' :: behind)) (item : Item value behind v rest) (ends : Ends rest) :
    members (placeField reader) (fuel + 1) first fields cs =
      members (placeField reader) fuel false (insertField key v fields) rest := by
  have placed : placeField reader fields key middle = .ok (insertField key v fields, rest) := by
    rw [placeField, colon_eq_ok_iff.mpr colon, ok_bind, h.complete item ends]
    rfl
  rw [members, next, ok_bind]
  dsimp only
  rw [string_eq_ok_iff.mpr chars, ok_bind]
  dsimp only
  rw [placed, ok_bind]

/-- With fuel for all of the text, the members of an object are read up to the bracket. -/
theorem Follows.members_of_tail {fields added : List (String × Json)} (h : Follows reader value)
    (tail : Tail (Member value) '\x7d' cs added rest) (enough : cs.length < fuel) :
    members (placeField reader) fuel false fields cs = .ok (withFields fields added, rest) := by
  induction tail generalizing fields fuel with
  | close space =>
    obtain ⟨fuel, rfl⟩ := Nat.exists_eq_add_of_lt enough
    rw [members, nextKey_close space]
    rfl
  | more comma member others ih =>
    obtain ⟨fuel, rfl⟩ := Nat.exists_eq_add_of_lt enough
    have shorter := h.member_shorter member
    have front := comma.length_le
    rw [List.length_cons] at front
    obtain ⟨space, chars, colon, item⟩ := member
    rw [h.members_member (nextKey_behind comma space) chars colon item (others.ends (.inr rfl))]
    exact ih (by omega)

theorem Follows.members_of_sequence {fields added : List (String × Json)}
    (h : Follows reader value) (sequence : Sequence (Member value) '\x7d' cs added rest)
    (enough : cs.length < fuel) :
    members (placeField reader) fuel true fields cs = .ok (withFields fields added, rest) := by
  obtain ⟨fuel, rfl⟩ := Nat.exists_eq_add_of_lt enough
  cases sequence with
  | empty space =>
    rw [members, nextKey_close space]
    rfl
  | items member others =>
    have shorter := h.member_shorter member
    obtain ⟨space, chars, colon, item⟩ := member
    rw [h.members_member (nextKey_quote space) chars colon item (others.ends (.inr rfl))]
    exact h.members_of_tail others (by omega)

/-! ### Values -/

theorem word_eq_ok_iff {ws : List Char} : word ws cs = .ok rest ↔ cs = ws ++ rest := by
  induction ws generalizing cs with
  | nil => exact ⟨fun h => Except.ok.inj h, congrArg Except.ok⟩
  | cons w ws ih =>
    cases cs with
    | nil => exact iff_of_false nofun nofun
    | cons c cs =>
      rw [word, List.cons_append, List.cons.injEq]
      split
      next same => rw [ih, and_iff_right same.symm]
      next other => exact iff_of_false nofun fun same => other same.1.symm

/-- The rest of a literal stands for the value of the literal. -/
theorem word_bind_eq_ok_iff {ws : List Char} {w : Json} :
    (word ws cs >>= fun rest => pure (w, rest)) = .ok (v, rest) ↔ w = v ∧ cs = ws ++ rest := by
  rw [bind_eq_ok_iff]
  constructor
  · rintro ⟨_, letters, made⟩
    obtain ⟨rfl, rfl⟩ := Prod.mk.inj (Except.ok.inj made)
    exact ⟨rfl, word_eq_ok_iff.mp letters⟩
  · rintro ⟨rfl, letters⟩
    exact ⟨rest, word_eq_ok_iff.mpr letters, rfl⟩

/-- A number of the form of one begins with a sign or a digit. -/
theorem NumberForm.starts {c : Char} (form : NumberForm (c :: text)) :
    c = '-' ∨ c.isDigit = true := by
  generalize all : c :: text = cs at form
  obtain ⟨signed, ⟨some, digits⟩, -, -, -⟩ := form
  obtain rfl | rfl := signed
  · obtain ⟨d, ds, rfl⟩ := List.exists_cons_of_ne_nil some
    obtain ⟨rfl, -⟩ := List.cons.inj all
    exact .inr (digits c List.mem_cons_self)
  · exact .inl (List.cons.inj all).1

/-- A number that is all of a text is read in front of what ends a value. -/
theorem number_append {c : Char} (taken : number c text = .ok (v, [])) (ends : Ends rest) :
    number c (text ++ rest) = .ok (v, rest) := by
  obtain ⟨front, same, -, takes⟩ := takes_number taken
  rw [List.append_nil] at same
  exact same ▸ takes rest ends

theorem Scalar.starts (h : Scalar text v rest) :
    ∃ c more, text = c :: more ∧ isSpace c = false ∧ c ≠ ']' := by
  cases h with
  | nullWord | trueWord | falseWord | string => exact ⟨_, _, rfl, rfl, by decide⟩
  | number form => exact ⟨_, _, rfl, starts_of_number form.starts⟩

theorem Scalar.length_lt (h : Scalar text v rest) : rest.length < text.length := by
  cases h with
  | string chars => exact Nat.lt_succ_of_lt chars.length_lt
  | nullWord | trueWord | falseWord | number =>
    simp only [List.length_cons, List.length_append]
    omega

variable {inner : Option (Reader Json)}

/-- A value that is neither a list nor an object is read at each depth. -/
theorem Scalar.valueWith_eq (h : Scalar text v rest) (space : Space cs text) (ends : Ends rest) :
    valueWith inner cs = .ok (v, rest) := by
  cases h with
  | nullWord =>
    rw [valueWith, space.skipSpace_eq rfl]
    rfl
  | trueWord =>
    rw [valueWith, space.skipSpace_eq rfl]
    rfl
  | falseWord =>
    rw [valueWith, space.skipSpace_eq rfl]
    rfl
  | string chars =>
    rw [valueWith_string (space.skipSpace_eq rfl), string_eq_ok_iff.mpr chars]
    rfl
  | number form taken =>
    rw [valueWith_number form.starts (space.skipSpace_eq (starts_of_number form.starts).1),
      number_append taken ends]

/-- What is read as a value is neither a list nor an object, or it is one of those whose items
and fields `inner` reads. -/
theorem scalar_or_nested_of_valueWith (h : valueWith inner cs = .ok (v, rest)) :
    Item Scalar cs v rest ∨ ∃ reader text, inner = some reader ∧
      (Space cs ('[' :: text) ∧ (∃ vs, v = .arr vs ∧
          items reader (text.length + 1) true text = .ok (vs, rest)) ∨
        Space cs ('\x7b' :: text) ∧ ∃ fields, v = .obj fields ∧
          members (placeField reader) (text.length + 1) true [] text = .ok (fields, rest)) := by
  have front := h
  unfold valueWith at h
  split at h
  · nomatch h
  next same =>
    obtain ⟨rfl, rfl⟩ := word_bind_eq_ok_iff.mp h
    exact .inl (.value (space_of_eq same) (.nullWord _))
  next same =>
    obtain ⟨rfl, rfl⟩ := word_bind_eq_ok_iff.mp h
    exact .inl (.value (space_of_eq same) (.trueWord _))
  next same =>
    obtain ⟨rfl, rfl⟩ := word_bind_eq_ok_iff.mp h
    exact .inl (.value (space_of_eq same) (.falseWord _))
  next same =>
    obtain ⟨_, characters, made⟩ := bind_eq_ok_iff.mp h
    obtain ⟨rfl, rfl⟩ := Prod.mk.inj (Except.ok.inj made)
    exact .inl (.value (space_of_eq same) (.string (string_eq_ok_iff.mp characters)))
  next text same =>
    cases inner with
    | none => nomatch h
    | some reader =>
      rw [valueWith_list same] at front
      obtain ⟨⟨vs, _⟩, read, made⟩ := map_eq_ok_iff.mp front
      obtain ⟨rfl, rfl⟩ := Prod.mk.inj made
      exact .inr ⟨reader, text, rfl, .inl ⟨space_of_eq same, vs, rfl, read⟩⟩
  next text same =>
    cases inner with
    | none => nomatch h
    | some reader =>
      rw [valueWith_object same] at front
      obtain ⟨⟨fields, _⟩, read, made⟩ := map_eq_ok_iff.mp front
      obtain ⟨rfl, rfl⟩ := Prod.mk.inj made
      exact .inr ⟨reader, text, rfl, .inr ⟨space_of_eq same, fields, rfl, read⟩⟩
  next same =>
    split at h
    · obtain ⟨text, rfl, form, takes⟩ := takes_number h
      have taken := takes [] ends_nil
      rw [List.append_nil] at taken
      exact .inl (.value (space_of_eq same) (.number form taken))
    · nomatch h

/-- Without anything inside it, a value is neither a list nor an object. -/
theorem follows_scalar : Follows (valueWith none) Scalar where
  starts := Scalar.starts
  shorter := Scalar.length_lt
  sound read := by
    obtain item | ⟨_, _, none, -⟩ := scalar_or_nested_of_valueWith read
    · exact item
    · nomatch none
  complete item ends := by
    obtain ⟨space, scalar⟩ := item
    exact scalar.valueWith_eq space ends

/-- From the values inside lists and objects it goes to the values around them. -/
theorem Follows.nested (h : Follows reader value) :
    Follows (valueWith (some reader)) (Nested value) where
  starts nested := by
    cases nested with
    | scalar scalar => exact scalar.starts
    | list | object => exact ⟨_, _, rfl, rfl, by decide⟩
  shorter nested := by
    cases nested with
    | scalar scalar => exact scalar.length_lt
    | list items => exact Nat.lt_succ_of_lt (items.length_lt h.item_shorter)
    | object members => exact Nat.lt_succ_of_lt (members.length_lt h.member_shorter)
  sound read := by
    obtain ⟨space, scalar⟩ | ⟨_, text, same, ⟨space, vs, rfl, read⟩ | ⟨space, fields, rfl, read⟩⟩ :=
      scalar_or_nested_of_valueWith read
    · exact .value space (.scalar scalar)
    · obtain rfl := Option.some.inj same
      exact .value space (.list (h.sequence_of_items read))
    · obtain rfl := Option.some.inj same
      obtain ⟨added, members, rfl⟩ := h.sequence_of_members read
      exact .value space (.object members)
  complete item ends := by
    obtain ⟨space, nested⟩ := item
    cases nested with
    | scalar scalar => exact scalar.valueWith_eq space ends
    | list items =>
      rw [valueWith_list (space.skipSpace_eq rfl),
        h.items_of_sequence items (Nat.lt_succ_self _)]
      rfl
    | object members =>
      rw [valueWith_object (space.skipSpace_eq rfl),
        h.members_of_sequence members (Nat.lt_succ_self _)]
      rfl

end Values

/-- At each depth values are read by their grammar. -/
theorem follows_value (depth : Nat) : Follows (value depth) (Value depth) := by
  induction depth with
  | zero => exact follows_scalar
  | succ depth ih => exact ih.nested

/-- What is read as a document is one by the grammar, and every such text is read. -/
theorem parse_eq_ok_iff {text : String} {v : Json} :
    parse text = .ok v ↔ Document text.toList v := by
  constructor
  · intro read
    obtain ⟨⟨_, rest⟩, taken, read⟩ := bind_eq_ok_iff.mp (eq_ok_of_mapError read)
    dsimp only at read
    split at read
    next same =>
      obtain rfl := Except.ok.inj read
      exact ⟨rest, (follows_value 127).sound taken, space_of_eq same⟩
    · nomatch read
  · rintro ⟨rest, item, space⟩
    have taken := (follows_value 127).complete item space.ends_nil
    rw [parse, document, maxDepth, taken, ok_bind]
    simp only [space.skipSpace_eq_nil]
    rfl

theorem parse_ofList_eq_ok_iff {text : List Char} {v : Json} :
    parse (String.ofList text) = .ok v ↔ Document text v := by
  rw [parse_eq_ok_iff, String.toList_ofList]

end Rehearsal.Json
