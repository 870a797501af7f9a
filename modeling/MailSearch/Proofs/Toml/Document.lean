import MailSearch.Proofs.Toml.Values
import MailSearch.Text.Occurrence

/-!
# Sections back and forth

Sections whose names need no quotes are written with a line for each entry.  The
text is read line by line into the headers and pairs that it was written for,
and these are put together to the table of the sections.
-/

namespace MailSearch
namespace Toml

/-! ## Names -/

/-- A name needs no quotes. -/
def IsName (name : String) : Prop :=
  name.toList ≠ [] ∧ ∀ c ∈ name.toList, isBare c = true

namespace IsName

variable {name : String} (isName : IsName name)

include isName

theorem exists_eq_cons :
    ∃ c later, name.toList = c :: later ∧ isBare c = true := by
  obtain ⟨c, later, split⟩ := List.exists_cons_of_ne_nil isName.1
  exact ⟨c, later, split, isName.2 c (split ▸ List.mem_cons_self)⟩

/-- A name ends in front of a character that belongs to none. -/
theorem readName_append
    {mark : Char}
    (notBare : isBare mark = false)
    (rest : List Char) :
    readName (name.toList ++ mark :: rest) = some (name, mark :: rest) := by
  obtain ⟨c, later, split, bare⟩ := isName.exists_eq_cons
  have taken : (name.toList ++ mark :: rest).takeWhile isBare =
      name.toList := by
    rw [List.takeWhile_append_of_pos isName.2,
      List.takeWhile_cons_of_neg (by simp [notBare]), List.append_nil]
  have left : (name.toList ++ mark :: rest).dropWhile isBare =
      mark :: rest := by
    rw [List.dropWhile_append_of_pos isName.2,
      List.dropWhile_cons_of_neg (by simp [notBare])]
  have unquoted : ∀ quote, isBare quote = false → ∀ others,
      name.toList ++ mark :: rest = quote :: others → False := by
    intro quote notBare others same
    rw [split] at same
    exact ne_of_class bare notBare (List.cons.inj same).1
  rw [readName.eq_3 _ (unquoted _ rfl) (unquoted _ rfl), taken, left]
  split
  · rename_i empty
    exact absurd empty isName.1
  · rw [String.ofList_toList]

/-- A key of one name is read up to a mark that is no point, without the blanks
behind it. -/
theorem readKey_append
    {mark c : Char}
    {rest behind : List Char}
    (notBare : isBare mark = false)
    (skipped : skipBlanks (mark :: rest) = c :: behind)
    (notPoint : c ≠ '.')
    (names : Nat) :
    readKey (names + 1) (name.toList ++ mark :: rest) =
      some (⟨[], name⟩, c :: behind) := by
  obtain ⟨first, later, split, bare⟩ := isName.exists_eq_cons
  have start : skipBlanks (name.toList ++ mark :: rest) = name.toList ++ mark ::
      rest := by
    rw [split, List.cons_append, (IsSolid.of_class bare rfl).skipBlanks_eq]
  rw [readKey, start, isName.readName_append notBare]
  simp only [bind, Option.bind_some, skipped]
  split
  · rename_i same
    exact absurd (List.cons.inj same).1 notPoint
  · rfl

end IsName

/-! ## Lines -/

/-- The key and the value of an entry. -/
def keyed (entry : String × Toml) : Key × Toml :=
  (⟨[], entry.1⟩, entry.2)

/-- The line of an entry. -/
def pairLine (entry : String × Toml) : Line :=
  .pair (keyed entry).1 (keyed entry).2

/-- The line of an entry is read up to its end. -/
theorem readLine_entry
    {entry : String × Toml}
    (isName : IsName entry.1)
    (written : Written bound entry.2)
    (rest : List Char) :
    readLine (entry.1.toList ++ ' ' :: '=' :: ' ' :: print entry.2 ++
        '\n' :: rest) =
      some (pairLine entry, '\n' :: rest) := by
  obtain ⟨c, later, starts, solid, -⟩ := written.readsBack.starts
  obtain ⟨first, others, split, bare⟩ := isName.exists_eq_cons
  have key : readKey bound
      (entry.1.toList ++ ' ' :: '=' :: ' ' :: (print entry.2 ++ '\n' :: rest)) =
      some (⟨[], entry.1⟩, '=' :: ' ' :: (print entry.2 ++ '\n' :: rest)) :=
    isName.readKey_append rfl rfl (by decide) 78
  have blank : skipBlanks (' ' :: (print entry.2 ++ '\n' :: rest)) =
      print entry.2 ++ '\n' :: rest := by
    rw [starts]
    exact solid.skipBlanks_eq _
  have value := written.readsBack.reads '\n' (by decide) rest
  have pair : readPair (readValue bound)
      (entry.1.toList ++ ' ' :: '=' :: ' ' :: (print entry.2 ++ '\n' :: rest)) =
      some ((⟨[], entry.1⟩, entry.2), '\n' :: rest) := by
    rw [readPair, key]
    simp only [bind, Option.bind_some, blank, value]
    rfl
  have noHeader : ∀ others,
      entry.1.toList ++ ' ' :: '=' :: ' ' :: (print entry.2 ++ '\n' :: rest) =
          '[' :: others →
        False := by
    intro others same
    rw [split] at same
    exact ne_of_class bare rfl (List.cons.inj same).1
  rw [List.append_assoc]
  exact (readLine.eq_2 _ noHeader).trans (congrArg _ pair)

/-- The line of a header is read up to its end. -/
theorem readLine_header
    {name : String}
    (isName : IsName name)
    (rest : List Char) :
    readLine ('[' :: name.toList ++ [']'] ++ '\n' :: rest) =
      some (.table ⟨[], name⟩, '\n' :: rest) := by
  obtain ⟨first, others, split, bare⟩ := isName.exists_eq_cons
  have key : readKey bound (name.toList ++ ']' :: '\n' :: rest) =
      some (⟨[], name⟩, ']' :: '\n' :: rest) :=
    isName.readKey_append rfl rfl (by decide) 78
  have single : ∀ others, name.toList ++ ']' :: '\n' :: rest = '[' :: others →
      False := by
    intro others same
    rw [split] at same
    exact ne_of_class bare rfl (List.cons.inj same).1
  rw [List.append_assoc, List.cons_append, readLine]
  refine (readHeader.eq_2 _ single).trans ?_
  rw [key]
  rfl

/-- A text is read as some lines, in every number of steps above its length. -/
def ReadsAs (text : List Char) (lines : List Line) : Prop :=
  ∀ steps, text.length < steps → readLines steps text = some lines

theorem readsAs_nil :
    ReadsAs [] [] := by
  intro steps enough
  obtain ⟨steps, rfl⟩ :=
    Nat.exists_eq_add_one_of_ne_zero (Nat.ne_zero_of_lt enough)
  rfl

/-- An empty line does not count. -/
theorem ReadsAs.emptyLine
    {text : List Char}
    {lines : List Line}
    (readsAs : ReadsAs text lines) :
    ReadsAs ('\n' :: text) lines := by
  intro steps enough
  obtain ⟨steps, rfl⟩ :=
    Nat.exists_eq_add_one_of_ne_zero (Nat.ne_zero_of_lt enough)
  exact readsAs steps (Nat.lt_of_succ_lt_succ enough)

/-- A line is put in front of the others. -/
theorem ReadsAs.line
    {text written : List Char}
    {lines : List Line}
    {line : Line}
    {c : Char}
    {later : List Char}
    (readsAs : ReadsAs text lines)
    (reads : readLine (written ++ '\n' :: text) = some (line, '\n' :: text))
    (starts : written = c :: later)
    (solid : IsSolid c) :
    ReadsAs (written ++ '\n' :: text) (line :: lines) := by
  subst starts
  intro steps enough
  obtain ⟨steps, rfl⟩ :=
    Nat.exists_eq_add_one_of_ne_zero (Nat.ne_zero_of_lt enough)
  have noEnd : afterLine? (c :: later ++ '\n' :: text) = none := by
    rw [afterLine?, List.cons_append, solid.skipBlanks_eq, solid.skipComment_eq]
    exact solid.afterLineBreak?_eq _
  have ends : afterLine? ('\n' :: text) = some text := rfl
  have others : readLines steps text = some lines := by
    apply readsAs
    simp only [List.length_append, List.length_cons] at enough
    omega
  rw [readLines]
  simp only [List.cons_append, solid.skipBlanks_eq] at noEnd reads ⊢
  rw [noEnd, reads]
  simp only [bind, Option.bind_some, ends, others]
  rfl

/-! ## Sections -/

/-- A section has a name and entries that can be written and told apart. -/
structure IsSection (part : String × List (String × Toml)) : Prop where
  /-- Its name needs no quotes. -/
  isName : IsName part.1
  /-- The names of its entries need no quotes. -/
  entryNames : ∀ entry ∈ part.2, IsName entry.1
  /-- The values of its entries can be written. -/
  written : ∀ entry ∈ part.2, Written bound entry.2
  /-- No two entries have the same name. -/
  distinct : (part.2.map Prod.fst).Nodup

/-- The lines of a section. -/
def sectionLines (part : String × List (String × Toml)) : List Line :=
  .table ⟨[], part.1⟩ :: part.2.map pairLine

/-- The lines of entries are read one after the other. -/
theorem ReadsAs.entries
    {text : List Char}
    {lines : List Line}
    (readsAs : ReadsAs text lines)
    {entries : List (String × Toml)}
    (entryNames : ∀ entry ∈ entries, IsName entry.1)
    (written : ∀ entry ∈ entries, Written bound entry.2) :
    ReadsAs (entries.flatMap printEntry ++ text)
      (entries.map pairLine ++ lines) := by
  induction entries with
  | nil => exact readsAs
  | cons entry later inductionHypothesis =>
      obtain ⟨isName, otherNames⟩ := List.forall_mem_cons.mp entryNames
      obtain ⟨isWritten, others⟩ := List.forall_mem_cons.mp written
      obtain ⟨c, behind, split, bare⟩ := isName.exists_eq_cons
      have starts : entry.1.toList ++ ' ' :: '=' :: ' ' :: print entry.2 =
          c :: (behind ++ ' ' :: '=' :: ' ' :: print entry.2) := by
        rw [split, List.cons_append]
      have line := (inductionHypothesis otherNames others).line
        (readLine_entry isName isWritten _) starts (.of_class bare rfl)
      rw [List.flatMap_cons, List.map_cons, printEntry]
      simpa only [List.append_assoc, List.cons_append, List.nil_append]
        using line

/-- A section is read as its lines. -/
theorem ReadsAs.section
    {text : List Char}
    {lines : List Line}
    (readsAs : ReadsAs text lines)
    {part : String × List (String × Toml)}
    (isSection : IsSection part) :
    ReadsAs (printSection part.1 part.2 ++ text)
      (sectionLines part ++ lines) := by
  have entries := readsAs.entries isSection.entryNames isSection.written
  have header :=
    entries.line (readLine_header isSection.isName _) rfl (by decide)
  rw [printSection, sectionLines]
  simpa only [List.append_assoc, List.cons_append, List.nil_append] using header

/-- Sections with an empty line between them are read as their lines. -/
theorem readsAs_sections
    {sections : List (String × List (String × Toml))}
    (each : ∀ part ∈ sections, IsSection part) :
    ReadsAs (Text.joinWith ['\n'] (sections.map fun part =>
        printSection part.1 part.2))
      (sections.flatMap sectionLines) := by
  match sections, each with
  | [], _ => exact readsAs_nil
  | [part], each =>
      have alone := readsAs_nil.section (each part List.mem_cons_self)
      rw [List.append_nil, List.append_nil] at alone
      simpa only [List.map_cons, List.map_nil, Text.joinWith, List.flatMap_cons,
        List.flatMap_nil, List.append_nil] using alone
  | part :: next :: later, each =>
      obtain ⟨first, others⟩ := List.forall_mem_cons.mp each
      have more := (readsAs_sections others).emptyLine.section first
      rw [List.flatMap_cons, List.map_cons, List.map_cons, Text.joinWith,
        List.append_assoc]
      · exact more
      · exact List.cons_ne_nil _ _

/-! ## Tables -/

section Tables

variable {entries : Entries} {name : String}

theorem lookup_eq_none
    (fresh : name ∉ entries.map Prod.fst) :
    entries.lookup name = none := by
  apply List.lookup_eq_none_iff.mpr
  intro entry isEntry
  rw [bne_iff_ne]
  rintro rfl
  exact fresh (List.mem_map_of_mem isEntry)

/-- A name is new if no other one in front of it is the same. -/
theorem notMem_of_nodup
    {names later : List String}
    (distinct : (names ++ name :: later).Nodup) :
    name ∉ names := by
  intro isName
  exact (List.nodup_append.mp distinct).2.2 name isName name
    List.mem_cons_self rfl

/-- A new name is put at the end. -/
theorem Entries.set_of_notMem
    (fresh : name ∉ entries.map Prod.fst)
    (node : Node) :
    entries.set name node = entries ++ [(name, node)] := by
  induction entries with
  | nil => rfl
  | cons entry later inductionHypothesis =>
      obtain ⟨other, present⟩ := entry
      rw [List.map_cons, List.mem_cons, not_or] at fresh
      rw [set, if_neg (Ne.symm fresh.1), inductionHypothesis fresh.2,
        List.cons_append]

theorem Entries.put_of_notMem
    (fresh : name ∉ entries.map Prod.fst)
    (value : Toml) :
    entries.put [] name value = some (entries ++ [(name, .value value)]) := by
  rw [put, change, lookup_eq_none fresh]
  rfl

/-- What is built for an entry. -/
def entryNode (entry : String × Toml) : String × Node :=
  (entry.1, .value entry.2)

/-- Entries with new names are put behind the others. -/
theorem putAll_eq
    {added : List (String × Toml)}
    (distinct : (entries.map Prod.fst ++ added.map Prod.fst).Nodup) :
    putAll (added.map keyed) entries =
      some (entries ++ added.map entryNode) := by
  induction added generalizing entries with
  | nil =>
      rw [List.map_nil, List.map_nil, List.append_nil]
      rfl
  | cons entry later inductionHypothesis =>
      have next : (List.map Prod.fst (entries ++ [entryNode entry]) ++
          later.map Prod.fst).Nodup := by
        simpa [entryNode] using distinct
      rw [List.map_cons] at distinct
      have first : Entries.put entries [] entry.1 entry.2 =
          some (entries ++ [entryNode entry]) :=
        Entries.put_of_notMem (notMem_of_nodup distinct) entry.2
      have others := inductionHypothesis next
      rw [List.append_assoc, List.singleton_append] at others
      rw [List.map_cons, List.map_cons, ← others, putAll, List.foldlM_cons,
        keyed, first]
      rfl

theorem putTable_eq
    {added : List (String × Toml)}
    (fresh : name ∉ entries.map Prod.fst)
    (distinct : (added.map Prod.fst).Nodup) :
    putTable entries ⟨[], name⟩ (added.map keyed) =
      some (entries ++ [(name, .table .header (added.map entryNode))]) := by
  have built : putAll (added.map keyed) [] = some (added.map entryNode) := by
    rw [@putAll_eq [] added distinct, List.nil_append]
  rw [putTable, Entries.change, lookup_eq_none fresh]
  simp only [bind, Option.bind_some, built, Entries.set_of_notMem fresh]
  rfl

end Tables

/-- The pairs of a section end with the header of the next one. -/
theorem firstPairs_eq
    (entries : List (String × Toml))
    {lines : List Line}
    (ended : firstPairs lines = ([], lines)) :
    firstPairs (entries.map pairLine ++ lines) =
      (entries.map keyed, lines) := by
  induction entries with
  | nil => exact ended
  | cons entry later inductionHypothesis =>
      rw [List.map_cons, List.cons_append, pairLine, firstPairs,
        inductionHypothesis]
      rfl

theorem firstPairs_sections
    (sections : List (String × List (String × Toml))) :
    firstPairs (sections.flatMap sectionLines) =
      ([], sections.flatMap sectionLines) := by
  cases sections <;> rfl

/-- Pairs in front of a header open no section. -/
theorem putSections_pairs
    (root : Entries)
    (entries : List (String × Toml))
    (lines : List Line) :
    putSections root (entries.map pairLine ++ lines) =
      putSections root lines := by
  induction entries with
  | nil => rfl
  | cons entry later inductionHypothesis => exact inductionHypothesis

/-- What is built for a section. -/
def sectionNode (part : String × List (String × Toml)) : String × Node :=
  (part.1, .table .header (part.2.map entryNode))

/-- Sections with new names are put behind the others. -/
theorem putSections_eq
    {root : Entries}
    {sections : List (String × List (String × Toml))}
    (each : ∀ part ∈ sections, IsSection part)
    (distinct : (root.map Prod.fst ++ sections.map Prod.fst).Nodup) :
    putSections root (sections.flatMap sectionLines) =
      some (root ++ sections.map sectionNode) := by
  induction sections generalizing root with
  | nil =>
      rw [List.map_nil, List.append_nil]
      rfl
  | cons part later inductionHypothesis =>
      obtain ⟨first, others⟩ := List.forall_mem_cons.mp each
      have next : (List.map Prod.fst (root ++ [sectionNode part]) ++
          later.map Prod.fst).Nodup := by
        simpa [sectionNode] using distinct
      rw [List.map_cons] at distinct
      have pairs :
          (firstPairs (part.2.map pairLine ++ later.flatMap sectionLines)).1 =
          part.2.map keyed := by
        rw [firstPairs_eq part.2 (firstPairs_sections later)]
      have table : putTable root ⟨[], part.1⟩ (part.2.map keyed) =
          some (root ++ [sectionNode part]) :=
        putTable_eq (notMem_of_nodup distinct) first.distinct
      have tables := inductionHypothesis others next
      rw [List.append_assoc, List.singleton_append] at tables
      rw [List.flatMap_cons, sectionLines, List.cons_append, putSections,
        pairs, table, List.map_cons, ← tables]
      exact putSections_pairs _ part.2 _

theorem entriesToToml_entries
    (entries : List (String × Toml)) :
    entriesToToml (entries.map entryNode) = entries := by
  induction entries with
  | nil => rfl
  | cons entry later inductionHypothesis =>
      rw [List.map_cons, entryNode, entriesToToml, inductionHypothesis,
        Node.toToml]

theorem entriesToToml_sections
    (sections : List (String × List (String × Toml))) :
    entriesToToml (sections.map sectionNode) =
      sections.map fun part => (part.1, .table part.2) := by
  induction sections with
  | nil => rfl
  | cons part later inductionHypothesis =>
      rw [List.map_cons, sectionNode, entriesToToml, inductionHypothesis,
        Node.toToml, entriesToToml_entries, List.map_cons]

/-- Written sections are read as the table of them. -/
theorem read?_sections
    {sections : List (String × List (String × Toml))}
    (each : ∀ part ∈ sections, IsSection part)
    (distinct : (sections.map Prod.fst).Nodup) :
    read? (Text.joinWith ['\n'] (sections.map fun part =>
        printSection part.1 part.2)) =
      some (.table (sections.map fun part => (part.1, .table part.2))) := by
  have unmarked : dropMark (Text.joinWith ['\n']
      (sections.map fun part => printSection part.1 part.2)) =
      Text.joinWith ['\n'] (sections.map fun part =>
        printSection part.1 part.2) := by
    match sections with
    | [] => rfl
    | [part] => rfl
    | part :: next :: later => rfl
  have lines := readsAs_sections each _ (Nat.lt_succ_self _)
  have root : putSections [] (sections.flatMap sectionLines) =
      some (sections.map sectionNode) := by
    rw [@putSections_eq [] sections each distinct, List.nil_append]
  rw [read?, unmarked, lines]
  simp only [bind, Option.bind_some, firstPairs_sections]
  change (putSections [] (sections.flatMap sectionLines)).bind _ = _
  rw [root, Option.bind_some, entriesToToml_sections]
  rfl

end Toml
end MailSearch
