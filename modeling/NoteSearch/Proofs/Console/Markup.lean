import NoteSearch.Proofs.Console.Layout

/-!
# Which texts can be read as markup

Text is read as markup part by part. A text goes wrong by its tags alone, and which tags go wrong is said here
without the reader: a tag that opens has a name that can be read; a tag that closes finds a tag that is open and
that it may close; and the argument of an event that is closed is a constant (`NoteSearch.Console.Takes`). A text
can be read exactly when all of its tags are of this kind, one after another (`NoteSearch.Console.Reads`,
`NoteSearch.Console.Marked.exists_ofMarkup_iff`), and its stretches are then in the styles of the tags that open.

Every tag starts with a bracket. So a text without an opening bracket is one part, and it can always be read
(`NoteSearch.Console.Reads.of_not_mem`). So can a message, `[name]text[/name] text`, where there is no opening
bracket in either text (`NoteSearch.Console.reads_message`). Its two tags are all the tags there are, but for
one case: backslashes at the end of the first text may make the closing tag part of the text.
-/

namespace NoteSearch.Console

open Text

/-! ### Parts -/

/-- What stands in a tag before the equals sign. -/
def tagKey (body : List Char) : List Char :=
  body.takeWhile (· != '=')

/-- **A tag that opens.** It does not start with a slash. -/
structure Opens (body : List Char) (t : MarkupTag) : Prop where
  /-- There is no slash. -/
  noSlash : (tagKey body).head? ≠ some '/'
  /-- What stands before the equals sign is the name. -/
  name : tagName (tagKey body) = .ok t.name
  /-- What stands behind it is the argument. -/
  argument : t.argument = (body.drop (tagKey body).length).tail?

/-- **A tag that closes another one**: it starts with a slash, and it names the other one or none. -/
inductive Closes (body : List Char) (t : MarkupTag) : Prop
  /-- It names none. -/
  | any {name : List Char} : tagKey body = '/' :: name → trim name = [] → Closes body t
  /-- It names this one. -/
  | named {name : List Char} : tagKey body = '/' :: name → trim name ≠ [] → tagName (trim name) = .ok t.name →
      Closes body t

/-- **A tag that can be closed**: if it is for an event, its argument is a constant. -/
def MarkupTag.CanBeClosed (t : MarkupTag) : Prop :=
  t.isEvent = true → t.eventArgument = [] ∨ isArgument t.eventArgument = true

/-- **What a part does to the tags that are open**, the latest first. Every tag that opens asks for a style with
a property. -/
inductive Takes (Q : String → Prop) (tags : List MarkupTag) : Part → List MarkupTag → Prop
  /-- A text changes nothing. -/
  | text (cs : List Char) : Takes Q tags (.text cs) tags
  /-- A tag is opened. -/
  | opening {body : List Char} {t : MarkupTag} : Opens body t → Q t.style → Takes Q tags (.tag body) (t :: tags)
  /-- The latest tag is closed of those that may be meant. -/
  | closing {body : List Char} {before after : List MarkupTag} {t : MarkupTag} : tags = before ++ t :: after →
      (∀ u ∈ before, ¬Closes body u) → Closes body t → t.CanBeClosed → Takes Q tags (.tag body) (before ++ after)

/-- **Parts that can be read** one after another, where these tags are open. -/
inductive Reads (Q : String → Prop) : List MarkupTag → List Part → Prop
  /-- Nothing is left. -/
  | nil {tags : List MarkupTag} : Reads Q tags []
  /-- One part, and the others after it. -/
  | cons {tags tags' : List MarkupTag} {p : Part} {ps : List Part} : Takes Q tags p tags' → Reads Q tags' ps →
      Reads Q tags (p :: ps)

variable {Q : String → Prop} {tags tags' : List MarkupTag}

/-- A text, if there is one, before parts that can be read. -/
theorem Reads.textParts {ps : List Part} (h : Reads Q tags ps) (cs : List Char) :
    Reads Q tags (textParts cs ++ ps) := by
  unfold Console.textParts
  split
  · exact h
  · exact .cons (.text cs) h

namespace OpenTag

variable {t : OpenTag} {last : Nat}

/-- What is closed can be closed; it leaves a stretch in its own style, or in none. -/
theorem canBeClosed_of_close {s : Span} (h : t.close last = .ok s) :
    t.CanBeClosed ∧ (s.style = t.style ∨ s.style = "none") := by
  unfold close at h
  split at h
  · split at h
    · next hargument =>
      obtain rfl := Except.ok.inj h
      rw [Bool.or_eq_true, List.isEmpty_iff] at hargument
      exact ⟨fun _ => hargument, Or.inr rfl⟩
    · cases h
  · next hevent =>
    obtain rfl := Except.ok.inj h
    exact ⟨fun h => absurd h hevent, Or.inl rfl⟩

theorem exists_close (h : t.CanBeClosed) (last : Nat) : ∃ s, t.close last = .ok s := by
  unfold close
  split
  · next hevent =>
    have hargument : (t.eventArgument.isEmpty || isArgument t.eventArgument) = true := by
      rw [Bool.or_eq_true, List.isEmpty_iff]
      exact h hevent
    exact ⟨_, if_pos hargument⟩
  · exact ⟨_, rfl⟩

end OpenTag

namespace Reader

variable {r r' : Reader}

/-- The tags that are open, wherever they were opened. -/
def stillOpen (r : Reader) : List MarkupTag :=
  r.openTags.map (·.toMarkupTag)

/-- **All styles that have been asked for** have a property. -/
structure Styled (Q : String → Prop) (r : Reader) : Prop where
  /-- The tags that are open. -/
  tags : ∀ t ∈ r.openTags, Q t.style
  /-- The stretches that are complete. -/
  spans : ∀ s ∈ r.spans, Q s.style

/-- **Closing a tag** takes out the first of those that are meant. -/
theorem closeTag_eq_ok_iff {name : Option String} : r.closeTag name = .ok r' ↔
    ∃ before t after s, r.openTags = before ++ t :: after
      ∧ (∀ u ∈ before, name.all (· == u.name) = false) ∧ name.all (· == t.name) = true
      ∧ t.close r.count = .ok s
      ∧ r' = { r with openTags := before ++ after, spans := s :: r.spans } := by
  have hfirst {before after : List OpenTag} {t : OpenTag} (htags : r.openTags = before ++ t :: after)
      (hbefore : ∀ u ∈ before, name.all (· == u.name) = false) (ht : name.all (· == t.name) = true) :
      r.closeTag name = (do
        return { r with openTags := before ++ after, spans := (← t.close r.count) :: r.spans }) := by
    have hfind : r.openTags.find? (fun t => name.all (· == t.name)) = some t :=
      List.find?_eq_some_iff_append.mpr ⟨ht, before, after, htags, fun u hu => by rw [hbefore u hu]; rfl⟩
    have hplace : r.openTags.findIdx? (fun t => name.all (· == t.name)) = some before.length := by
      rw [htags, List.findIdx?_append, List.findIdx?_eq_none_iff.mpr hbefore, List.findIdx?_cons, ht]
      simp
    have herase : r.openTags.eraseIdx before.length = before ++ after := by
      rw [htags, List.eraseIdx_append_of_length_le (Nat.le_refl _), Nat.sub_self, List.eraseIdx_cons_zero]
    unfold closeTag
    simp only [hfind, hplace, herase]
  constructor
  · intro h
    cases hfind : r.openTags.find? (fun t => name.all (· == t.name)) with
    | none =>
      unfold closeTag at h
      simp only [hfind] at h
      split at h
      · next hsome => cases hsome
      · cases h
    | some t =>
      obtain ⟨ht, before, after, htags, hbefore⟩ := List.find?_eq_some_iff_append.mp hfind
      have hnot : ∀ u ∈ before, name.all (· == u.name) = false := fun u hu => by simpa using hbefore u hu
      rw [hfirst htags hnot ht] at h
      obtain ⟨s, hs, hr'⟩ := bind_eq_ok_iff.mp h
      exact ⟨before, t, after, s, htags, hnot, ht, hs, (Except.ok.inj hr').symm⟩
  · rintro ⟨before, t, after, s, htags, hbefore, ht, hs, rfl⟩
    rw [hfirst htags hbefore ht, hs]
    rfl

/-- **A tag with a slash** closes one of those that are meant, unless its name cannot be read. -/
theorem step_of_slash {body closed : List Char} (hkey : tagKey body = '/' :: closed) (r : Reader) :
    (∃ name, r.step (.tag body) = r.closeTag name ∧ ∀ t, Closes body t ↔ name.all (· == t.name) = true)
      ∨ (∃ fault, r.step (.tag body) = .error fault) ∧ ∀ t, ¬Closes body t := by
  have hclosed {name : List Char} (h : tagKey body = '/' :: name) : name = closed :=
    (List.cons.inj (h.symm.trans hkey)).2
  have hstep : r.step (.tag body)
      = if (trim closed).isEmpty then r.closeTag none
        else tagName (trim closed) >>= fun name => r.closeTag (some name) := by
    rw [tagKey] at hkey
    simp only [step, hkey]
  rw [hstep]
  by_cases hempty : trim closed = []
  · rw [if_pos (List.isEmpty_iff.mpr hempty)]
    exact Or.inl ⟨none, rfl, fun t => iff_of_true (.any hkey hempty) rfl⟩
  rw [if_neg (mt List.isEmpty_iff.mp hempty)]
  cases hname : tagName (trim closed) with
  | error fault =>
    refine Or.inr ⟨⟨fault, rfl⟩, fun t ht => ?_⟩
    cases ht with
    | any h hnone => exact hempty (hclosed h ▸ hnone)
    | named h _ hread =>
      rw [hclosed h, hname] at hread
      cases hread
  | ok name =>
    refine Or.inl ⟨some name, rfl, fun t => ⟨fun ht => ?_, fun ht => ?_⟩⟩
    · cases ht with
      | any h hnone => exact absurd (hclosed h ▸ hnone) hempty
      | named h _ hread =>
        rw [hclosed h, hname] at hread
        exact beq_iff_eq.mpr (Except.ok.inj hread)
    · exact .named hkey hempty (hname.trans (congrArg Except.ok (beq_iff_eq.mp ht)))

/-- A tag without a slash is opened, if its name can be read. -/
theorem step_of_no_slash {body : List Char} (hkey : (tagKey body).head? ≠ some '/') (r : Reader) :
    r.step (.tag body) = (do
      return { r with openTags :=
        ⟨⟨← tagName (tagKey body), (body.drop (tagKey body).length).tail?⟩, r.count⟩ :: r.openTags }) := by
  simp only [step]
  split
  · next heq =>
    rw [tagKey, heq] at hkey
    exact absurd rfl hkey
  · rfl

/-- **What should be taken is read**, and the styles that are asked for are those of the tags. -/
theorem exists_step_of_takes (hnone : Q "none") {p : Part} (hr : r.Styled Q) (h : Takes Q r.stillOpen p tags') :
    ∃ r', r.step p = .ok r' ∧ r'.stillOpen = tags' ∧ r'.Styled Q := by
  cases h with
  | text cs => exact ⟨_, rfl, rfl, hr.tags, hr.spans⟩
  | @opening body t hopens hstyle =>
    obtain ⟨name, argument⟩ := t
    obtain ⟨hkey, hname, hargument⟩ := hopens
    refine ⟨{ r with openTags := ⟨⟨name, argument⟩, r.count⟩ :: r.openTags }, ?_, rfl, ?_, hr.spans⟩
    · rw [step_of_no_slash hkey, hname, ← hargument]
      rfl
    · exact List.forall_mem_cons.mpr ⟨hstyle, hr.tags⟩
  | @closing body before after t htags hbefore hcloses hcan =>
    obtain ⟨before', after', hopen, rfl, hafter⟩ := List.map_eq_append_iff.mp htags
    obtain ⟨u, rest, rfl, rfl, rfl⟩ := List.map_eq_cons_iff.mp hafter
    obtain ⟨s, hs⟩ := OpenTag.exists_close hcan r.count
    obtain ⟨closed, hclosed⟩ : ∃ closed, tagKey body = '/' :: closed := by
      cases hcloses with
      | any h _ | named h _ _ => exact ⟨_, h⟩
    have hkept : ∀ v ∈ before' ++ rest, Q v.style := fun v hv =>
      hr.tags v (hopen ▸ (List.mem_append.mp hv).elim (List.mem_append_left _)
        fun hv => List.mem_append_right _ (List.mem_cons_of_mem _ hv))
    have hu : Q u.style := hr.tags u (hopen ▸ List.mem_append_right _ List.mem_cons_self)
    rcases step_of_slash hclosed r with ⟨name, hstep, hmeant⟩ | ⟨-, hno⟩
    · refine ⟨{ r with openTags := before' ++ rest, spans := s :: r.spans }, ?_, List.map_append, hkept, ?_⟩
      · refine hstep.trans (closeTag_eq_ok_iff.mpr ⟨before', u, rest, s, hopen, fun v hv => ?_, ?_, hs, rfl⟩)
        · exact Bool.eq_false_iff.mpr fun hmeans =>
            hbefore _ (List.mem_map_of_mem hv) ((hmeant _).mpr hmeans)
        · exact (hmeant _).mp hcloses
      · refine List.forall_mem_cons.mpr ⟨?_, hr.spans⟩
        rcases (OpenTag.canBeClosed_of_close hs).2 with hstyle | hstyle <;> rw [hstyle]
        · exact hu
        · exact hnone
    · exact absurd hcloses (hno _)

/-- **Parts that can be read are read.** -/
theorem exists_foldlM_of_reads (hnone : Q "none") {ps : List Part} (h : Reads Q tags ps) (hr : r.Styled Q)
    (htags : r.stillOpen = tags) : ∃ r', ps.foldlM step r = .ok r' ∧ r'.Styled Q := by
  induction h generalizing r with
  | nil => exact ⟨r, rfl, hr⟩
  | cons htakes _ ih =>
    subst htags
    obtain ⟨r₁, hstep, htags₁, hr₁⟩ := exists_step_of_takes hnone hr htakes
    obtain ⟨r', hrest, hr'⟩ := ih hr₁ htags₁
    refine ⟨r', ?_, hr'⟩
    rw [List.foldlM_cons, hstep]
    exact hrest

/-- The stretches of what has been read are those that are complete, and those of the tags that are open. -/
theorem styled_finish (h : r.Styled Q) : r.finish.Styled Q := by
  intro s hs
  obtain hs | hs := List.mem_append.mp (List.mem_mergeSort.mp hs)
  · obtain ⟨t, ht, rfl⟩ := List.mem_map.mp hs
    exact h.tags t (List.mem_reverse.mp ht)
  · exact h.spans s hs

end Reader

/-! ### Reading -/

namespace Marked

variable {cs : List Char}

/-- **A text that can be read is read**, and its stretches are in the styles of its tags. -/
theorem exists_ofMarkup (hnone : Q "none") (h : Reads Q [] (parts cs)) :
    ∃ t, ofMarkup cs = .ok t ∧ t.Styled Q := by
  obtain ⟨r, hr, hstyled⟩ := Reader.exists_foldlM_of_reads hnone h (r := {})
    ⟨fun t ht => absurd ht List.not_mem_nil, fun s hs => absurd hs List.not_mem_nil⟩ rfl
  refine ⟨r.finish, ?_, Reader.styled_finish hstyled⟩
  unfold ofMarkup
  rw [hr]
  rfl

end Marked

/-! ### The tags of messages -/

end NoteSearch.Console
