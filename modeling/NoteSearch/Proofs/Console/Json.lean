import NoteSearch.Console.Json
import NoteSearch.Proofs.Text.Numeral
import NoteSearch.Proofs.Text.Run

/-!
# What is printed as JSON is known

Whoever reads a value that was printed knows which one it was: no two values have the same text
(`NoteSearch.Console.Json.print_inj`).

The reason is that a value is known by how it is written *whatever comes after it*, and this is what goes
through the levels (`NoteSearch.Console.Json.known_write`). A character is known because it can be read again,
a text by the quote that ends it, a list or a record by what comes after each of its members: a comma, or the
start of a new line. Only a number needs something after it that is no digit.
-/

namespace NoteSearch.Console

open Text

namespace Json

/-! ### Texts -/

/-- What a character after a backslash stands for. -/
def unescaped (c : Char) : Char :=
  if c == 'n' then '\n'
  else if c == 'r' then '\r'
  else if c == 't' then '\t'
  else if c == 'b' then '\x08'
  else if c == 'f' then '\x0c'
  else c

/-- The unit of UTF-16 whose digits come first, and what is left. -/
def readUnit? (cs : List Char) : Option (Nat × List Char) :=
  (hexNumber? (cs.take 4)).map (·, cs.drop 4)

/-- Whether a unit is the first one of two. -/
def isFirstOfTwo (unit : Nat) : Bool :=
  0xD800 ≤ unit && unit < 0xDC00

/-- **The character at the start of a written text**, and what is left of the text. -/
def readEscaped? : List Char → Option (Char × List Char)
  | '\\' :: 'u' :: cs => do
    let (unit, cs) ← readUnit? cs
    if isFirstOfTwo unit then
      let (next, cs) ← readUnit? (cs.drop 2)
      return (Char.ofNat (0x10000 + 0x400 * (unit - 0xD800) + (next - 0xDC00)), cs)
    else return (Char.ofNat unit, cs)
  | '\\' :: c :: cs => some (unescaped c, cs)
  | c :: cs => some (c, cs)
  | [] => none

variable {c d : Char} {cs ds a b : List Char} {n : Nat}

theorem readUnit?_append (h : n < 0x10000) (cs : List Char) :
    readUnit? (hexDigits 4 n ++ cs) = some (n, cs) := by
  rw [readUnit?, List.take_left' (length_hexDigits 4 n), List.drop_left' (length_hexDigits 4 n),
    hexNumber?_hexDigits h]
  rfl

/-- The number of a character is no half of a pair, and not too large. -/
theorem toNat_lt_or (c : Char) : c.toNat < 0xD800 ∨ 0xDFFF < c.toNat ∧ c.toNat < 0x110000 :=
  c.valid

/-- A character of the first plane takes one unit. -/
theorem readEscaped?_unit (h : c.toNat < 0x10000) (cs : List Char) :
    readEscaped? (unitEscape c.toNat ++ cs) = some (c, cs) := by
  have hfirst : isFirstOfTwo c.toNat = false := by
    have hvalid := toNat_lt_or c
    simp only [isFirstOfTwo, Bool.and_eq_false_iff, decide_eq_false_iff_not]
    omega
  show readEscaped? ('\\' :: 'u' :: (hexDigits 4 c.toNat ++ cs)) = _
  rw [readEscaped?, readUnit?_append h]
  simp [hfirst]

/-- Two units that belong together. -/
theorem readEscaped?_two {unit next : Nat} (hfirst : isFirstOfTwo unit = true) (hunit : unit < 0x10000)
    (hnext : next < 0x10000) (cs : List Char) : readEscaped? (unitEscape unit ++ unitEscape next ++ cs)
      = some (Char.ofNat (0x10000 + 0x400 * (unit - 0xD800) + (next - 0xDC00)), cs) := by
  show readEscaped? ('\\' :: 'u' :: (hexDigits 4 unit ++ ('\\' :: 'u' :: hexDigits 4 next) ++ cs)) = _
  rw [readEscaped?, List.append_assoc, readUnit?_append hunit]
  simp only [Option.bind_eq_bind, Option.bind_some, List.cons_append, List.drop_succ_cons, List.drop_zero,
    if_pos hfirst, readUnit?_append hnext]
  rfl

/-- A character beyond the first plane takes two. -/
theorem readEscaped?_pair (h : 0x10000 ≤ c.toNat) (cs : List Char) :
    readEscaped? (unitEscape (0xD800 + (c.toNat - 0x10000) / 0x400)
      ++ unitEscape (0xDC00 + (c.toNat - 0x10000) % 0x400) ++ cs) = some (c, cs) := by
  have hvalid := toNat_lt_or c
  have hfirst : isFirstOfTwo (0xD800 + (c.toNat - 0x10000) / 0x400) = true := by
    simp only [isFirstOfTwo, Bool.and_eq_true, decide_eq_true_eq]
    omega
  have hwhole : 0x10000 + 0x400 * (0xD800 + (c.toNat - 0x10000) / 0x400 - 0xD800)
      + (0xDC00 + (c.toNat - 0x10000) % 0x400 - 0xDC00) = c.toNat := by omega
  rw [readEscaped?_two hfirst (by omega) (by omega), hwhole, Char.ofNat_toNat]

/-- **A character that is written is read again.** -/
theorem readEscaped?_escaped (c : Char) (cs : List Char) : readEscaped? (escaped c ++ cs) = some (c, cs) := by
  unfold escaped
  -- the characters that have an escape of their own
  iterate 7
    split
    · next h =>
      rw [eq_of_beq h]
      rfl
  split
  · next hbackslash _ _ _ _ _ _ =>
    have hne : c ≠ '\\' := by simpa using hbackslash
    show readEscaped? (c :: cs) = _
    rw [readEscaped?]
    · exact fun _ h => absurd h hne
    · exact fun _ _ h => absurd h hne
  split
  · next hsmall => exact readEscaped?_unit hsmall cs
  · next hlarge => exact readEscaped?_pair (by omega) cs

/-- A written character does not start with the quote that ends a text: that would be read as a quote, and a
quote is written with a backslash. -/
theorem escaped_append_ne (c : Char) (cs ds : List Char) : escaped c ++ cs ≠ '"' :: ds := by
  intro h
  have hread : readEscaped? ('"' :: ds) = some ('"', ds) := by
    rw [readEscaped?] <;> simp
  rw [← h, readEscaped?_escaped] at hread
  obtain ⟨rfl, rfl⟩ := Prod.mk.inj (Option.some.inj hread)
  exact absurd (List.cons.inj h).1 (by decide)

/-- Written characters are known, up to the quote that ends them. -/
theorem flatMap_escaped_inj (h : cs.flatMap escaped ++ '"' :: a = ds.flatMap escaped ++ '"' :: b) :
    cs = ds ∧ a = b := by
  induction cs generalizing ds with
  | nil =>
    cases ds with
    | nil => exact ⟨rfl, (List.cons.inj h).2⟩
    | cons d ds =>
      rw [List.flatMap_cons, List.append_assoc] at h
      exact absurd h.symm (escaped_append_ne d _ a)
  | cons c cs ih =>
    cases ds with
    | nil =>
      rw [List.flatMap_cons, List.append_assoc] at h
      exact absurd h (escaped_append_ne c _ b)
    | cons d ds =>
      have hread := congrArg readEscaped? h
      rw [List.flatMap_cons, List.flatMap_cons, List.append_assoc, List.append_assoc, readEscaped?_escaped,
        readEscaped?_escaped] at hread
      obtain ⟨rfl, hrest⟩ := Prod.mk.inj (Option.some.inj hread)
      obtain ⟨rfl, hab⟩ := ih hrest
      exact ⟨rfl, hab⟩

/-- **A text is known by how it is written**, whatever comes after it. -/
theorem writeText_inj {s t : String} (h : writeText s ++ a = writeText t ++ b) : s = t ∧ a = b := by
  have hinside : s.toList.flatMap escaped ++ '"' :: a = t.toList.flatMap escaped ++ '"' :: b := by
    simpa [writeText] using h
  obtain ⟨hchars, hab⟩ := flatMap_escaped_inj hinside
  exact ⟨String.toList_inj.mp hchars, hab⟩

/-! ### Lists of members -/

/-- What may come after a value: a text that does not start with a digit. -/
def Follows (cs : List Char) : Prop :=
  ∀ c ∈ cs.head?, c.isDigit = false

/-- **What is written this way is known**, whatever comes after it. -/
def Known {α : Type} (spell : α → List Char) (x : α) : Prop :=
  ∀ (y : α) (a b : List Char), Follows a → Follows b → spell x ++ a = spell y ++ b → x = y ∧ a = b

theorem follows_nil : Follows [] := by
  simp [Follows]

theorem follows_cons (h : c.isDigit = false) (cs : List Char) : Follows (c :: cs) := by
  simpa [Follows] using h

variable {α : Type} {spell : α → List Char} {xs ys : List α} {level : Nat} {first last : Char}

/-- The members of a list that is not empty. -/
theorem block_cons (m : List Char) (ms : List (List Char)) :
    block level first last (m :: ms) = first :: newLine (level + 1)
      ++ (',' :: newLine (level + 1)).intercalate (m :: ms) ++ newLine level ++ [last] :=
  if_neg (by simp)

/-- **Members are known** by how they are written one after another: a comma after a member says that there
is one more, and the start of a new line that there is none. -/
theorem intercalate_inj {x y : α} (hx : ∀ z ∈ x :: xs, Known spell z)
    (h : (',' :: newLine (level + 1)).intercalate ((x :: xs).map spell) ++ (newLine level ++ a)
      = (',' :: newLine (level + 1)).intercalate ((y :: ys).map spell) ++ (newLine level ++ b)) :
    x :: xs = y :: ys ∧ a = b := by
  have hcomma : ∀ cs, Follows (',' :: newLine (level + 1) ++ cs) := fun cs => follows_cons (by decide) _
  have hline : ∀ cs, Follows (newLine level ++ cs) := fun cs => follows_cons (by decide) _
  induction xs generalizing x y ys with
  | nil =>
    cases ys with
    | nil =>
      rw [List.map_singleton, List.map_singleton, List.intercalate_singleton, List.intercalate_singleton] at h
      obtain ⟨rfl, hab⟩ := hx x List.mem_cons_self y _ _ (hline a) (hline b) h
      exact ⟨rfl, List.append_cancel_left hab⟩
    | cons y' ys =>
      rw [List.map_singleton, List.intercalate_singleton, List.map_cons, List.map_cons,
        List.intercalate_cons_cons, List.append_assoc, List.append_assoc] at h
      obtain ⟨-, hne⟩ := hx x List.mem_cons_self y _ _ (hline a) (hcomma _) h
      exact absurd (List.cons.inj hne).1 (by decide)
  | cons x' xs ih =>
    cases ys with
    | nil =>
      rw [List.map_singleton, List.intercalate_singleton, List.map_cons, List.map_cons,
        List.intercalate_cons_cons, List.append_assoc, List.append_assoc] at h
      obtain ⟨-, hne⟩ := hx x List.mem_cons_self y _ _ (hcomma _) (hline b) h
      exact absurd (List.cons.inj hne).1 (by decide)
    | cons y' ys =>
      rw [List.map_cons, List.map_cons, List.map_cons, List.map_cons, List.intercalate_cons_cons,
        List.intercalate_cons_cons, List.append_assoc, List.append_assoc, List.append_assoc,
        List.append_assoc] at h
      obtain ⟨rfl, hmore⟩ := hx x List.mem_cons_self y _ _ (hcomma _) (hcomma _) h
      obtain ⟨hrest, hab⟩ := ih (fun z hz => hx z (List.mem_cons_of_mem x hz)) (List.append_cancel_left hmore)
      exact ⟨congrArg _ hrest, hab⟩

/-- **Members between brackets are known.** -/
theorem block_inj (hlast : last ≠ '\n') (hxs : ∀ x ∈ xs, Known spell x)
    (h : block level first last (xs.map spell) ++ a = block level first last (ys.map spell) ++ b) :
    xs = ys ∧ a = b := by
  cases xs with
  | nil =>
    cases ys with
    | nil => exact ⟨rfl, List.append_cancel_left h⟩
    | cons y ys => exact absurd (List.cons.inj (List.cons.inj h).2).1 hlast
  | cons x xs =>
    cases ys with
    | nil => exact absurd (List.cons.inj (List.cons.inj h).2).1.symm hlast
    | cons y ys =>
      rw [List.map_cons, List.map_cons, block_cons, block_cons, ← List.map_cons, ← List.map_cons] at h
      simp only [List.append_assoc, List.cons_append, List.cons.injEq, true_and] at h
      obtain ⟨hmembers, hab⟩ := intercalate_inj hxs (List.append_cancel_left h)
      exact ⟨hmembers, (List.cons.inj hab).2⟩

/-! ### Values -/

/-- The members of a list, as they are written. -/
theorem writeItems_eq (level : Nat) (items : List Json) : writeItems level items = items.map (write level) := by
  induction items with
  | nil => rw [writeItems, List.map_nil]
  | cons item items ih => rw [writeItems, ih, List.map_cons]

/-- A member of a record, as it is written. -/
def writeField (level : Nat) (field : String × Json) : List Char :=
  writeText field.1 ++ ':' :: ' ' :: field.2.write level

/-- The members of a record, as they are written. -/
theorem writeFields_eq (level : Nat) (fields : List (String × Json)) :
    writeFields level fields = fields.map (writeField level) := by
  induction fields with
  | nil => rw [writeFields, List.map_nil]
  | cons field fields ih => rw [writeFields, ih, List.map_cons, writeField]

/-- The kinds of values. -/
inductive Kind
  /-- No value. -/
  | null
  /-- Truth values. -/
  | bool
  /-- Whole numbers. -/
  | nat
  /-- Texts. -/
  | text
  /-- Lists. -/
  | list
  /-- Records. -/
  | record
  deriving DecidableEq

/-- The kind of a value. -/
def kind : Json → Kind
  | null => .null
  | bool _ => .bool
  | nat _ => .nat
  | text _ => .text
  | list _ => .list
  | record _ => .record

/-- The kind of a value that is written with this character first. -/
def kindOf (c : Char) : Kind :=
  if c = 'n' then .null
  else if c = 't' ∨ c = 'f' then .bool
  else if c = '"' then .text
  else if c = '[' then .list
  else if c = '\x7b' then .record
  else .nat

theorem kindOf_of_isDigit (h : c.isDigit = true) : kindOf c = .nat := by
  have hne : ∀ d, d.isDigit = false → c ≠ d := by
    rintro d hd rfl
    rw [h] at hd
    cases hd
  simp [kindOf, hne]

/-- A block starts with its bracket. -/
theorem exists_block_eq_cons (level : Nat) (first last : Char) (members : List (List Char)) :
    ∃ cs, block level first last members = first :: cs := by
  unfold block
  split
  · exact ⟨_, rfl⟩
  · exact ⟨_, rfl⟩

/-- **A value is written with a character of its kind first.** -/
theorem exists_write_eq_cons (v : Json) (level : Nat) :
    ∃ c cs, v.write level = c :: cs ∧ kindOf c = v.kind := by
  cases v with
  | null => exact ⟨_, _, by rw [write], rfl⟩
  | bool b => cases b <;> exact ⟨_, _, by rw [write], rfl⟩
  | nat n =>
    have hdigit := isDigit_of_mem_numeral (n := n)
    obtain ⟨c, cs, hcs⟩ := List.exists_cons_of_ne_nil (Nat.toDigits_ne_nil (n := n) (b := 10))
    refine ⟨c, cs, by rw [write]; exact hcs, kindOf_of_isDigit (hdigit c ?_)⟩
    rw [numeral, hcs]
    exact List.mem_cons_self
  | text s => exact ⟨_, _, by rw [write, writeText]; rfl, rfl⟩
  | list items =>
    obtain ⟨cs, hcs⟩ := exists_block_eq_cons level '[' ']' (writeItems (level + 1) items)
    exact ⟨'[', cs, by rw [write, hcs], rfl⟩
  | record fields =>
    obtain ⟨cs, hcs⟩ := exists_block_eq_cons level '\x7b' '\x7d' (writeFields (level + 1) fields)
    exact ⟨'\x7b', cs, by rw [write, hcs], rfl⟩

/-- So values of different kinds are written differently. -/
theorem kind_eq_of_write {v w : Json} (h : v.write level ++ a = w.write level ++ b) : v.kind = w.kind := by
  obtain ⟨c, cs, hv, hc⟩ := exists_write_eq_cons v level
  obtain ⟨d, ds, hw, hd⟩ := exists_write_eq_cons w level
  rw [hv, hw] at h
  rw [← hc, ← hd, (List.cons.inj h).1]

/-- A number is known, if no digit comes after it. -/
theorem known_nat (n level : Nat) : Known (write level) (nat n) := by
  intro w a b ha hb h
  cases w with
  | nat m =>
    rw [write, write] at h
    have hread := (takeWhile_dropWhile_iff (numeral n ++ a) Char.isDigit).mpr
      ⟨rfl, isDigit_of_mem_numeral, ha⟩
    rw [h] at hread
    obtain ⟨hm, hb'⟩ := (takeWhile_dropWhile_iff (numeral m ++ b) Char.isDigit).mpr
      ⟨rfl, isDigit_of_mem_numeral, hb⟩
    exact ⟨congrArg nat (numeral_inj (hread.1.symm.trans hm)), hread.2.symm.trans hb'⟩
  | _ => cases kind_eq_of_write h

/-- **Values are known by how they are written.** -/
theorem known_write (v : Json) (level : Nat) : Known (write level) v := by
  match v with
  | null =>
    intro w a b ha hb h
    cases w with
    | null => exact ⟨rfl, List.append_cancel_left h⟩
    | _ => cases kind_eq_of_write h
  | bool x =>
    intro w a b ha hb h
    cases w with
    | bool y =>
      cases x <;> cases y
      case true.true => exact ⟨rfl, List.append_cancel_left h⟩
      case false.false => exact ⟨rfl, List.append_cancel_left h⟩
      all_goals exact absurd (List.cons.inj h).1 (by decide)
    | _ => cases kind_eq_of_write h
  | nat n => exact known_nat n level
  | text s =>
    intro w a b ha hb h
    cases w with
    | text t =>
      rw [write, write] at h
      obtain ⟨rfl, hab⟩ := writeText_inj h
      exact ⟨rfl, hab⟩
    | _ => cases kind_eq_of_write h
  | list items =>
    intro w a b ha hb h
    cases w with
    | list items' =>
      rw [write, write, writeItems_eq, writeItems_eq] at h
      obtain ⟨rfl, hab⟩ := block_inj (by decide) (fun item _ => known_write item (level + 1)) h
      exact ⟨rfl, hab⟩
    | _ => cases kind_eq_of_write h
  | record fields =>
    intro w a b ha hb h
    cases w with
    | record fields' =>
      rw [write, write, writeFields_eq, writeFields_eq] at h
      have hfields : ∀ field ∈ fields, Known (writeField (level + 1)) field := by
        rintro ⟨name, value⟩ hmem ⟨name', value'⟩ a b ha hb h
        simp only [writeField, List.append_assoc, List.cons_append] at h
        obtain ⟨rfl, hrest⟩ := writeText_inj h
        have hvalue := (List.cons.inj (List.cons.inj hrest).2).2
        have hsmaller : sizeOf value < sizeOf fields := by
          have hpair := List.sizeOf_lt_of_mem hmem
          rw [Prod.mk.sizeOf_spec] at hpair
          omega
        obtain ⟨rfl, hab⟩ := known_write value (level + 1) value' a b ha hb hvalue
        exact ⟨rfl, hab⟩
      obtain ⟨rfl, hab⟩ := block_inj (by decide) hfields h
      exact ⟨rfl, hab⟩
    | _ => cases kind_eq_of_write h

/-- **No two values have the same text.** -/
theorem print_inj {v w : Json} (h : v.print = w.print) : v = w := by
  have hwrite : v.write 0 ++ [] = w.write 0 ++ [] := by
    rw [List.append_nil, List.append_nil]
    exact String.ofList_injective h
  exact (known_write v 0 w [] [] follows_nil follows_nil hwrite).1

end Json

end NoteSearch.Console
