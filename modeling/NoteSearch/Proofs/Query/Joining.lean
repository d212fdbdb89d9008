import NoteSearch.Command.Search
import NoteSearch.Proofs.Query.Casing
import NoteSearch.Proofs.Query.Spans
import NoteSearch.Proofs.Query.Spelling

/-!
# Queries side by side

A blank between two texts keeps them apart: the tokens of the whole are those of the first text, and then those
of the second. Every rule of the scanner looks ahead, and what it sees behind the first text is no longer the
end of the query but a blank. That is the same to a fixed word, which ends there either way, and to a name,
which a blank does not prolong (`NoteSearch.scanWord?_append`).

It is not the same to a quotation. One that the first text leaves open goes on into the second, and takes away
what it reads there. So the scan must not come to a place where a key is followed by a quote without a partner
(`NoteSearch.ClosesQuotes`), and where it does not, and only there, the two texts can be scanned one by one
(`NoteSearch.scan_append_blank_iff`). The words of a command line are joined by spaces, and so the scanner reads
them one by one, up to the first that leaves a quotation open (`NoteSearch.tokens_append_iff_and_tokens_query`).
-/

namespace NoteSearch

open Text

/-! ### Quotations that are left open -/

/-- **The places that the scan of a text comes to**, each as the text that is left there. -/
inductive ComesTo : List Char → List Char → Prop
  /-- It starts at the start. -/
  | start (cs : List Char) : ComesTo cs cs
  /-- It goes on where a step has left it. -/
  | step {c : Char} {cs rest : List Char} : ComesTo (scanStep c cs).2 rest → ComesTo (c :: cs) rest

/-- **A text that starts with an open quotation**: a key, and a quote that has no partner in the text. -/
def OpensQuote (cs : List Char) : Prop :=
  ∃ k ∈ valueKeys, ∃ rest, dropWord? k.1.toList cs = some ('"' :: rest) ∧ '"' ∉ rest

/-- **A text that leaves no quotation open**, wherever its scan comes to. -/
def ClosesQuotes (cs : List Char) : Prop :=
  ∀ rest, ComesTo cs rest → ¬OpensQuote rest

variable {cs ds rest tail value word : List Char} {c s : Char} {t : Token}

theorem ClosesQuotes.not_opensQuote (h : ClosesQuotes cs) : ¬OpensQuote cs :=
  h cs (.start cs)

theorem ClosesQuotes.scanStep (h : ClosesQuotes (c :: cs)) : ClosesQuotes (scanStep c cs).2 :=
  fun rest hrest => h rest (.step hrest)

/-! ### A text that goes on with a blank -/

/-- **A tail that begins with a blank.** -/
def BeginsBlank (tail : List Char) : Prop :=
  ∃ s b, tail = s :: b ∧ isBlank s = true

/-- What has been read, with a tail behind what is left. -/
abbrev followedBy {α : Type} (tail : List Char) : α × List Char → α × List Char :=
  Prod.map id (· ++ tail)

/-- **A fixed word** is not completed by a blank. -/
theorem dropWord?_append (hword : ∀ c ∈ word, isBlank c = false) (htail : BeginsBlank tail) (cs : List Char) :
    dropWord? word (cs ++ tail) = (dropWord? word cs).map (· ++ tail) := by
  induction word generalizing cs with
  | nil => rfl
  | cons k ks ih =>
    rw [List.forall_mem_cons] at hword
    cases cs with
    | nil =>
      obtain ⟨s, b, rfl, hs⟩ := htail
      have hne : s.toLower ≠ k := by
        rintro rfl
        rw [isBlank_toLower, hs] at hword
        exact absurd hword.1 (by decide)
      rw [List.nil_append, dropWord?, if_neg hne]
      rfl
    | cons c cs =>
      rw [List.cons_append, dropWord?, dropWord?, ih hword.2]
      split <;> rfl

theorem endsWord_append (htail : BeginsBlank tail) (cs : List Char) : endsWord (cs ++ tail) = endsWord cs := by
  cases cs with
  | cons c cs => rfl
  | nil =>
    obtain ⟨s, b, rfl, hs⟩ := htail
    have hname := isNameChar_eq_false_of_isBlank hs
    rw [isNameChar, Bool.or_eq_false_iff] at hname
    exact congrArg (!·) hname.1

/-- **A fixed word is complete** before a blank as it is at the end. -/
theorem dropWholeWord?_append (hword : ∀ c ∈ word, isBlank c = false) (htail : BeginsBlank tail)
    (cs : List Char) : dropWholeWord? word (cs ++ tail) = (dropWholeWord? word cs).map (· ++ tail) := by
  rw [dropWholeWord?, dropWholeWord?, dropWord?_append hword htail, Option.filter_map]
  exact congrArg (fun p => ((dropWord? word cs).filter p).map (· ++ tail))
    (funext (endsWord_append htail))

/-- **A name ends** before a blank as it does at the end. -/
theorem readName?_append (htail : BeginsBlank tail) (cs : List Char) :
    readName? (cs ++ tail) = (readName? cs).map (followedBy tail) := by
  obtain ⟨s, b, rfl, hs⟩ := htail
  have hname : ∀ c ∈ (s :: b).head?, isNameChar c = false := by
    rintro c ⟨⟩
    exact isNameChar_eq_false_of_isBlank hs
  obtain ⟨htake, hdrop⟩ := takeWhile_dropWhile_append hname cs
  rw [readName?, readName?, htake, hdrop]
  split <;> rfl

/-- **A quotation that is closed** ends at its closing quote, whatever follows. -/
theorem readQuoted?_append (h : '"' ∈ cs) (tail : List Char) :
    readQuoted? (cs ++ tail) = (readQuoted? cs).map (followedBy tail) := by
  obtain ⟨hcs, htake, hdrop⟩ := (takeWhile_dropWhile_iff cs (· != '"')).mp ⟨rfl, rfl⟩
  cases hrest : cs.dropWhile (· != '"') with
  | nil =>
    -- then there would be no quote at all
    rw [hrest, List.append_nil] at hcs
    exact absurd (htake _ (hcs ▸ h)) (by decide)
  | cons d ds =>
    rw [hrest] at hcs hdrop
    have hwhole : cs ++ tail = cs.takeWhile (· != '"') ++ (d :: ds ++ tail) := by
      rw [← List.append_assoc, ← hcs]
    obtain ⟨htake', hdrop'⟩ := (takeWhile_dropWhile_iff _ (· != '"')).mpr
      ⟨hwhole, htake, fun c hc => hdrop c hc⟩
    rw [readQuoted?, readQuoted?, htake', hdrop', hrest]
    split <;> rfl

/-- **A value is the same** before a blank as it is at the end, unless it is a quotation that is left open. -/
theorem readValue?_append (hquote : ∀ rest, cs = '"' :: rest → '"' ∈ rest) (htail : BeginsBlank tail) :
    readValue? (cs ++ tail) = (readValue? cs).map (followedBy tail) := by
  by_cases hhead : cs.head? = some '"'
  · obtain ⟨rest, rfl⟩ := List.head?_eq_some_iff.mp hhead
    exact readQuoted?_append (hquote rest rfl) tail
  · have hhead' : (cs ++ tail).head? ≠ some '"' := by
      cases cs with
      | cons c cs => exact hhead
      | nil =>
        obtain ⟨s, b, rfl, hs⟩ := htail
        rintro hs'
        obtain rfl := Option.some.inj hs'
        exact absurd hs (by decide)
    rw [readValue?_name hhead, readValue?_name hhead']
    exact readName?_append htail cs

/-! ### The rules -/

theorem scanKeyword?_append (word : String) {token : Token} (hword : word.toList.all (!isBlank ·) = true)
    (htail : BeginsBlank tail) (cs : List Char) :
    scanKeyword? word token (cs ++ tail) = (scanKeyword? word token cs).map (followedBy tail) := by
  have hword' : ∀ c ∈ word.toList, isBlank c = false := by simpa using hword
  rw [scanKeyword?, scanKeyword?, dropWholeWord?_append hword' htail, Option.map_map, Option.map_map]
  rfl

theorem scanKeyed?_append {key : String} {make : String → Leaf} (hkey : (key, make) ∈ valueKeys)
    (hquote : ¬OpensQuote cs) (htail : BeginsBlank tail) :
    scanKeyed? key make (cs ++ tail) = (scanKeyed? key make cs).map (followedBy tail) := by
  have hkeys : ∀ k ∈ valueKeys, ∀ c ∈ k.1.toList, isBlank c = false := by
    have hall : valueKeys.all (fun k => k.1.toList.all (!isBlank ·)) = true := by decide
    simpa only [List.all_eq_true, Bool.not_eq_true'] using hall
  simp only [scanKeyed?, dropWord?_append (hkeys _ hkey) htail]
  cases hdrop : dropWord? key.toList cs with
  | none => rfl
  | some ds =>
    have hclosed : ∀ rest, ds = '"' :: rest → '"' ∈ rest := by
      rintro rest rfl
      exact Decidable.not_not.mp fun hopen => hquote ⟨_, hkey, rest, hdrop, hopen⟩
    show (readValue? (ds ++ tail)).bind _ = ((readValue? ds).bind _).map _
    rw [readValue?_append hclosed htail]
    cases readValue? ds <;> rfl

theorem scanTerm?_append (htail : BeginsBlank tail) (cs : List Char) :
    scanTerm? (cs ++ tail) = (scanTerm? cs).map (followedBy tail) := by
  rw [scanTerm?, scanTerm?, readName?_append htail, Option.map_map, Option.map_map]
  rfl

/-- **The same rule applies** before a blank and at the end, and reads the same. -/
theorem scanWord?_append (hquote : ¬OpensQuote cs) (htail : BeginsBlank tail) :
    scanWord? (cs ++ tail) = (scanWord? cs).map (followedBy tail) := by
  have htag : ("tag:", Leaf.tag) ∈ valueKeys := List.mem_cons_self
  have hfolder : ("folder:", Leaf.folder) ∈ valueKeys := List.mem_cons_of_mem _ List.mem_cons_self
  simp only [scanWord?, Option.orElse_eq_orElse, Option.orElse_eq_or, Option.map_or,
    scanKeyword?_append "and" (by decide) htail,
    scanKeyword?_append "or" (by decide) htail,
    scanKeyword?_append "not" (by decide) htail,
    scanKeyed?_append htag hquote htail, scanKeyed?_append hfolder hquote htail,
    scanKeyword?_append "pinned:true" (by decide) htail,
    scanKeyword?_append "pinned:false" (by decide) htail, scanTerm?_append htail]

/-- **A step of the scan** reads the same token before a blank as at the end. -/
theorem scanStep_append (hquote : ¬OpensQuote (c :: cs)) (htail : BeginsBlank tail) :
    scanStep c (cs ++ tail) = followedBy tail (scanStep c cs) := by
  have hword := scanWord?_append hquote htail
  rw [List.cons_append] at hword
  simp only [scanStep, hword]
  split
  · rfl
  split
  · rfl
  split
  · rfl
  cases scanWord? (c :: cs) <;> rfl

/-! ### The scan -/

/-- **Scanning goes on as if the text had ended** and the next one had begun. -/
theorem scan_append (h : ClosesQuotes cs) (htail : BeginsBlank tail) :
    scan (cs ++ tail) = scan cs ++ scan tail := by
  induction hlen : cs.length using Nat.strongRecOn generalizing cs with
  | ind n ih =>
    cases cs with
    | nil => rw [List.nil_append, scan_nil, List.nil_append]
    | cons c cs =>
      have hshorter : (scanStep c cs).2.length < n := by
        have := scanStep_length_le c cs
        rw [← hlen, List.length_cons]
        omega
      rw [List.cons_append, scan_cons, scan_cons, scanStep_append h.not_opensQuote htail]
      dsimp only [Prod.map_fst, Prod.map_snd, id]
      rw [ih _ hshorter h.scanStep rfl, List.append_assoc]

/-! ### A quotation that is left open -/

/-- **A key and a value are read where they stand**: no rule before theirs applies. -/
theorem scanWord?_of_key {k : String × (String → Leaf)} (hk : k ∈ valueKeys)
    (hdrop : dropWord? k.1.toList cs = some ds) (hvalue : readValue? ds = some (value, rest)) :
    scanWord? cs = some (.leaf (k.2 (String.ofList value)), rest) := by
  have hread : scanKeyed? k.1 k.2 cs = some (.leaf (k.2 (String.ofList value)), rest) := by
    simp [scanKeyed?, hdrop, hvalue]
  -- what stands here is the key, and in lower case it is none of the others
  obtain ⟨p, rfl, hp⟩ := dropWord?_eq_some_iff.mp hdrop
  have hother : ∀ word, dropWord? word (k.1.toList ++ ds.map Char.toLower) = none →
      dropWord? word (p ++ ds) = none := by
    intro word hword
    rw [← hp, ← List.map_append, dropWord?_map_toLower] at hword
    exact Option.map_eq_none_iff.mp hword
  have hkeyword : ∀ word token, dropWord? word.toList (k.1.toList ++ ds.map Char.toLower) = none →
      scanKeyword? word token (p ++ ds) = none := by
    intro word token hword
    rw [scanKeyword?, dropWholeWord?, hother _ hword]
    rfl
  simp only [valueKeys, List.mem_cons, List.not_mem_nil, or_false] at hk
  obtain rfl | rfl := hk
  · rw [scanWord?, hkeyword "and" _ rfl, hkeyword "or" _ rfl, hkeyword "not" _ rfl, hread]
    rfl
  · have htag : scanKeyed? "tag:" Leaf.tag (p ++ ds) = none := by
      rw [scanKeyed?, hother _ rfl]
      rfl
    rw [scanWord?, hkeyword "and" _ rfl, hkeyword "or" _ rfl, hkeyword "not" _ rfl, htag, hread]
    rfl

/-- A quotation that is left open goes on behind a blank. -/
theorem exists_readQuoted?_append (hopen : '"' ∉ cs) (hs : isBlank s = true) (ds : List Char) :
    ∃ value rest, readQuoted? (cs ++ s :: ds) = some (value, rest) ∧ cs.length < value.length := by
  have hquote : (s != '"') = true := by
    refine bne_iff_ne.mpr ?_
    rintro rfl
    exact absurd hs (by decide)
  have hcs : ∀ c ∈ cs, (c != '"') = true := fun c hc => bne_iff_ne.mpr fun heq => hopen (heq ▸ hc)
  refine ⟨cs ++ s :: ds.takeWhile (· != '"'), (ds.dropWhile (· != '"')).drop 1, ?_, by simp⟩
  rw [readQuoted?, List.takeWhile_append_of_pos hcs, List.dropWhile_append_of_pos hcs,
    List.takeWhile_cons_of_pos (p := (· != '"')) hquote, List.dropWhile_cons_of_pos (p := (· != '"')) hquote]
  simp

/-- **What is read at a quotation that is left open** is not what is read when it goes on: no value in the text
is longer than the quotation. -/
theorem WordRead.ne_leaf {k : String × (String → Leaf)} (h : WordRead cs t rest) (hk : k ∈ valueKeys)
    (hdrop : dropWord? k.1.toList cs = some ('"' :: ds)) (hopen : '"' ∉ ds)
    (hlength : ds.length < value.length) : t ≠ .leaf (k.2 (String.ofList value)) := by
  simp only [valueKeys, List.mem_cons, List.not_mem_nil, or_false] at hk
  cases h with
  | fixed hword _ =>
    simp only [fixedWords, List.mem_cons, Prod.mk.injEq, List.not_mem_nil, or_false] at hword
    rintro rfl
    obtain rfl | rfl := hk <;> simp at hword
  | @keyed key make after value' rest hkey hafter hvalue =>
    intro heq
    have hsame : (key, make) = k ∧ value' = value := by
      simp only [valueKeys, List.mem_cons, Prod.mk.injEq, List.not_mem_nil, or_false] at hkey
      obtain ⟨rfl, rfl⟩ | ⟨rfl, rfl⟩ := hkey <;> obtain rfl | rfl := hk <;> simp_all [String.ofList_inj]
    obtain ⟨rfl, rfl⟩ := hsame
    obtain rfl := Option.some.inj (hafter.symm.trans hdrop)
    rw [readValue?_quote, readQuoted?_eq_some_iff] at hvalue
    obtain ⟨-, -, rfl | ⟨rfl, -⟩⟩ := hvalue
    · exact hopen (by simp)
    · exact Nat.lt_irrefl _ hlength
  | term _ _ =>
    obtain rfl | rfl := hk <;> simp

/-- A word is read where a name character stands. -/
theorem exists_scan_eq_cons (hc : isNameChar c = true) (cs : List Char) :
    ∃ t rest, scanWord? (c :: cs) = some (t, rest) ∧ scan (c :: cs) = t :: scan rest := by
  have hblank : isBlank c = false := by
    refine Bool.eq_false_iff.mpr fun hblank => ?_
    rw [isNameChar_eq_false_of_isBlank hblank] at hc
    exact absurd hc (by decide)
  have hparen : c ≠ '(' ∧ c ≠ ')' := by
    constructor <;> rintro rfl <;> exact absurd hc (by decide +kernel)
  cases hread : scanWord? (c :: cs) with
  | none =>
    rw [isNameChar_eq_false_of_scanWord? hread] at hc
    exact absurd hc (by decide)
  | some read => exact ⟨read.1, read.2, rfl, scan_of_scanWord? hblank hparen hread⟩

/-- A key starts with a name character. -/
theorem exists_cons_of_key {k : String × (String → Leaf)} (hk : k ∈ valueKeys)
    (hdrop : dropWord? k.1.toList cs = some ds) : ∃ c cs', cs = c :: cs' ∧ isNameChar c = true := by
  obtain ⟨p, rfl, hp⟩ := dropWord?_eq_some_iff.mp hdrop
  have hkeys : ∀ k ∈ valueKeys, k.1.toList.head?.any isNameChar = true :=
    List.all_eq_true.mp (by decide)
  have hhead := hkeys k hk
  cases p with
  | nil =>
    rw [← hp] at hhead
    exact absurd hhead (by decide)
  | cons c p =>
    rw [← hp, List.map_cons, List.head?_cons, Option.any_some, isNameChar_toLower] at hhead
    exact ⟨c, p ++ ds, rfl, hhead⟩

/-- **A quotation that is left open takes from what follows**: its value is longer than it was. -/
theorem scan_append_ne_of_opensQuote (h : OpensQuote cs) (hs : isBlank s = true) (ds : List Char) :
    scan (cs ++ s :: ds) ≠ scan cs ++ scan ds := by
  obtain ⟨k, hk, quoted, hdrop, hopen⟩ := h
  obtain ⟨value, rest, hquoted, hlength⟩ := exists_readQuoted?_append hopen hs ds
  have hlong : scanWord? (cs ++ s :: ds) = some (.leaf (k.2 (String.ofList value)), rest) := by
    obtain ⟨p, rfl, hp⟩ := dropWord?_eq_some_iff.mp hdrop
    have hdrop' : dropWord? k.1.toList (p ++ '"' :: quoted ++ s :: ds) = some ('"' :: (quoted ++ s :: ds)) :=
      dropWord?_eq_some_iff.mpr ⟨p, by rw [List.append_assoc, List.cons_append], hp⟩
    exact scanWord?_of_key hk hdrop' hquoted
  obtain ⟨c, cs, rfl, hc⟩ := exists_cons_of_key hk hdrop
  obtain ⟨t, rest', hread, hscan⟩ := exists_scan_eq_cons hc cs
  obtain ⟨t', rest'', hread', hscan'⟩ := exists_scan_eq_cons hc (cs ++ s :: ds)
  obtain ⟨rfl, rfl⟩ := Prod.mk.inj (Option.some.inj (hread'.symm.trans hlong))
  rw [List.cons_append, hscan, hscan', List.cons_append]
  intro heq
  exact (wordRead_of_scanWord? hread).ne_leaf hk hdrop hopen hlength (List.cons.inj heq).1.symm

/-- So it does wherever the scan comes to it. -/
theorem scan_append_ne_of_comesTo (h : ComesTo cs rest) (hquote : OpensQuote rest) (hs : isBlank s = true)
    (ds : List Char) : scan (cs ++ s :: ds) ≠ scan cs ++ scan ds := by
  induction h with
  | start cs => exact scan_append_ne_of_opensQuote hquote hs ds
  | @step c cs rest _ ih =>
    by_cases hhere : OpensQuote (c :: cs)
    · exact scan_append_ne_of_opensQuote hhere hs ds
    -- up to that place, both scans have read the same
    rw [List.cons_append, scan_cons, scan_cons, scanStep_append hhere ⟨s, ds, rfl, hs⟩, List.append_assoc]
    exact fun heq => ih hquote (List.append_cancel_left heq)

/-- **Two texts with a blank between them can be scanned one by one** exactly when no quotation is left open in
the first. -/
theorem scan_append_blank_iff (hs : isBlank s = true) (cs ds : List Char) :
    scan (cs ++ s :: ds) = scan cs ++ scan ds ↔ ClosesQuotes cs := by
  constructor
  · intro heq rest hrest hquote
    exact scan_append_ne_of_comesTo hrest hquote hs ds heq
  · intro h
    have hblank : scan (s :: ds) = scan ds := by
      rw [scan_cons, scanStep, if_pos hs]
      rfl
    rw [scan_append h ⟨s, ds, rfl, hs⟩, hblank]

/-! ### The words of a command line -/

/-- **Words that are joined by spaces are scanned one by one**, as far as they leave no quotation open. -/
theorem tokens_intercalate {words : List String} (h : ∀ w ∈ words, ClosesQuotes w.toList) (others : List String) :
    tokens (String.intercalate " " (words ++ others))
      = words.flatMap tokens ++ tokens (String.intercalate " " others) := by
  induction words with
  | nil => rfl
  | cons w words ih =>
    rw [List.forall_mem_cons] at h
    rw [List.flatMap_cons, List.append_assoc, ← ih h.2, List.cons_append]
    cases words ++ others with
    | nil =>
      show tokens w = tokens w ++ scan []
      rw [scan_nil, List.append_nil]
    | cons next rest =>
      have hjoined : (String.intercalate " " (w :: next :: rest)).toList
          = w.toList ++ ' ' :: (String.intercalate " " (next :: rest)).toList := by
        simp [String.toList_intercalate]
      rw [tokens, hjoined]
      exact (scan_append_blank_iff rfl _ _).mpr h.1

/-- **Queries that stand side by side are read one by one.** If a blank is between two texts, the tokens of the
whole are those of the two texts exactly when the first leaves no quotation open. So the words of a search
command, which are joined by spaces, are read one by one, as far as they leave none open. -/
theorem tokens_append_iff_and_tokens_query :
    (∀ (a b : String) (s : Char), isBlank s = true →
        (tokens (a ++ String.singleton s ++ b) = tokens a ++ tokens b ↔ ClosesQuotes a.toList))
      ∧ ∀ (r : Command.SearchRequest) (words others : List String), r.words = words ++ others →
          (∀ w ∈ words, ClosesQuotes w.toList) →
          tokens r.query = words.flatMap tokens ++ tokens (String.intercalate " " others) := by
  refine ⟨fun a b s hs => ?_, fun r words others hwords h => ?_⟩
  · have htext : (a ++ String.singleton s ++ b).toList = a.toList ++ s :: b.toList := by simp
    rw [tokens, htext]
    exact scan_append_blank_iff hs _ _
  · rw [Command.SearchRequest.query, hwords]
    exact tokens_intercalate h others

/-- A closed quotation is read by itself before a line end and as a word of a command line; one that is left open
is not. -/
theorem tokens_append_iff_and_tokens_query_quoted :
    let closed := "tag:\"co op\""
    let unclosed := "folder:\"x"
    isBlank '\n' = true ∧ ClosesQuotes closed.toList ∧ ¬ClosesQuotes unclosed.toList
      ∧ tokens (closed ++ String.singleton '\n' ++ "milk") = [.leaf (.tag "co op"), .leaf (.text "milk")]
      ∧ tokens ({ words := [closed, unclosed, "milk"] } : Command.SearchRequest).query
          = [.leaf (.tag "co op"), .leaf (.folder "x milk")] := by
  intro closed unclosed
  obtain ⟨hiff, hwords⟩ := tokens_append_iff_and_tokens_query
  have hone : tokens closed = [.leaf (.tag "co op")] := by decide +kernel
  have hmilk : tokens "milk" = [.leaf (.text "milk")] := by decide +kernel
  have hboth : tokens (closed ++ String.singleton '\n' ++ "milk")
      = [.leaf (.tag "co op"), .leaf (.text "milk")] := by decide +kernel
  have hclosed : ClosesQuotes closed.toList :=
    (hiff closed "milk" '\n' (by decide)).mp (by rw [hboth, hone, hmilk]; rfl)
  refine ⟨by decide, hclosed, fun h => ?_, hboth, ?_⟩
  · have heq := (hiff unclosed "milk" '\n' (by decide)).mpr h
    have hleft : tokens (unclosed ++ String.singleton '\n' ++ "milk") = [.leaf (.folder "x\nmilk")] := by
      decide +kernel
    have hright : tokens unclosed = [.leaf (.folder "x")] := by decide +kernel
    rw [hleft, hright, hmilk] at heq
    exact absurd heq (by decide)
  · have hjoined := hwords { words := [closed, unclosed, "milk"] } [closed] [unclosed, "milk"] rfl
      (List.forall_mem_singleton.mpr hclosed)
    have hrest : tokens (String.intercalate " " [unclosed, "milk"]) = [.leaf (.folder "x milk")] := by
      decide +kernel
    rw [hjoined, hrest, List.flatMap_singleton, hone]
    rfl

end NoteSearch
