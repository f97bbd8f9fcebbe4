import Readiness.Project.Repair
import Readiness.Proofs.DiskFrame
import Readiness.Proofs.EditFrame
import Readiness.Proofs.ScriptRepair
import Readiness.Proofs.StableSort
import Readiness.Proofs.Utf8Bytes

/-!
# What a repair leaves of the bytes of a file

A file is read as a text, repaired as a text, and written as a text. Three facts
make a statement about its bytes of that. Reading loses nothing but the ends of
lines: the bytes of the text are those of the file with line feeds for line ends.
Edits respect characters: the ranges that they replace in a text are ranges of its
bytes, and all other bytes stay. And a write is found again where it was put.

So the bytes that are written are not those of the file with ranges replaced, but
those of the file *with line feeds for line ends* with ranges replaced. For a file
without carriage returns that is the same, and for any other it is not: every
one of them is lost, wherever the edits are.
-/

namespace Readiness

/-! ## Edits of bytes -/

/-- How many bytes of a text stand in front of an offset. -/
def Text.byteOffset (t : Text) (offset : Nat) : Nat := (Text.utf8 (t.take offset)).length

theorem Text.utf8_split (t : Text) (n : Nat) :
    t.utf8 = Text.utf8 (t.take n) ++ Text.utf8 (t.drop n) := by
  rw [← utf8_append, List.take_append_drop]

theorem Text.utf8_take (t : Text) (n : Nat) :
    Text.utf8 (t.take n) = t.utf8.take (t.byteOffset n) := by
  rw [utf8_split t n]
  exact (List.take_left' rfl).symm

theorem Text.utf8_drop (t : Text) (n : Nat) :
    Text.utf8 (t.drop n) = t.utf8.drop (t.byteOffset n) := by
  rw [utf8_split t n]
  exact (List.drop_left' rfl).symm

theorem Text.byteOffset_drop (t : Text) {a b : Nat} (h : a ≤ b) :
    Text.byteOffset (t.drop a) (b - a) = t.byteOffset b - t.byteOffset a := by
  have hsplit : t.take b = t.take a ++ (t.drop a).take (b - a) := by
    rw [← List.take_add, Nat.add_sub_cancel' h]
  rw [byteOffset, byteOffset, byteOffset, hsplit, utf8_append, List.length_append,
    Nat.add_sub_cancel_left]

namespace Edit

/-- The bytes that start at the given offset with the sorted edits of a text made in them, from left
to right: the bytes of a range give way to those of its replacement, and all others are kept. -/
def spliceBytes (t : Text) (offset : Nat) (bytes : List UInt8) : List Edit → List UInt8
  | [] => bytes
  | e :: more =>
    bytes.take (t.byteOffset e.start - offset) ++ e.replacement.utf8 ++
      spliceBytes t (t.byteOffset e.stop) (bytes.drop (t.byteOffset e.stop - offset)) more

/-- Bytes with all the edits of a text made in them. -/
def replaceBytes (t : Text) (bytes : List UInt8) (edits : List Edit) : List UInt8 :=
  spliceBytes t 0 bytes (sorted edits)

theorem utf8_splice (t : Text) : ∀ {es : List Edit} {base : Nat}, Separated es →
    (∀ e ∈ es, base ≤ e.start) →
    Text.utf8 (splice base (t.drop base) es) =
      spliceBytes t (t.byteOffset base) (Text.utf8 (t.drop base)) es := by
  intro es
  induction es with
  | nil => intro base _ _; rfl
  | cons e es ih =>
      intro base hsep hes
      obtain ⟨hlater, hsep⟩ := List.pairwise_cons.mp hsep
      have hstart := hes e List.mem_cons_self
      have hstop : base ≤ e.stop := Nat.le_trans hstart e.ordered
      have hdrop : (t.drop base).drop (e.stop - base) = t.drop e.stop := by
        rw [List.drop_drop, Nat.add_sub_cancel' hstop]
      have hrest := ih hsep hlater
      rw [splice, spliceBytes, Text.utf8_append, Text.utf8_append, Text.utf8_take,
        Text.byteOffset_drop t hstart, ← Text.byteOffset_drop t hstop, ← Text.utf8_drop, hdrop,
        hrest]

/-- The bytes of a text with edits made are its bytes with these edits made. -/
theorem utf8_apply {t u : Text} {edits : List Edit} (h : Edit.apply t edits = .ok u) :
    u.utf8 = replaceBytes t t.utf8 edits := by
  obtain ⟨hsep, rfl⟩ := apply_ok h
  exact utf8_splice t hsep fun e _ => Nat.zero_le _

theorem mem_spliceBytes {t : Text} {x : UInt8} : ∀ {es : List Edit} {offset : Nat}
    {bytes : List UInt8}, x ∈ spliceBytes t offset bytes es →
    x ∈ bytes ∨ ∃ e ∈ es, x ∈ e.replacement.utf8 := by
  intro es
  induction es with
  | nil => intro offset bytes h; exact .inl h
  | cons e es ih =>
      intro offset bytes h
      rw [spliceBytes] at h
      rcases List.mem_append.mp h with h | h
      · rcases List.mem_append.mp h with h | h
        · exact .inl (List.mem_of_mem_take h)
        · exact .inr ⟨e, List.mem_cons_self, h⟩
      · rcases ih h with h | ⟨d, hd, h⟩
        · exact .inl (List.mem_of_mem_drop h)
        · exact .inr ⟨d, List.mem_cons_of_mem e hd, h⟩

end Edit

namespace Repair

variable {Tree : Type}

/-- Bytes with the edits of attempts made in them, one attempt after the other. -/
def rewritten (bytes : List UInt8) : List Attempt → List UInt8
  | [] => bytes
  | a :: more => rewritten (Edit.replaceBytes a.before bytes a.edits) more

/-- The edits of a run, made in the bytes of its text. -/
theorem utf8_lastText (g : Grammar Tree) (e : Nat → Engine Tree) (t : Text)
    (issues : List Issue) :
    Text.utf8 (lastText t (course g e t issues)) = rewritten t.utf8 (course g e t issues) := by
  fun_induction course g e t issues with
  | case1 e t => rfl
  | case2 e t i more a ih =>
      have hbytes : a.after.utf8 = Edit.replaceBytes a.before t.utf8 a.edits := by
        have hbefore : a.before = t := attempt_before g (e 0) t i
        rw [hbefore]
        exact Edit.utf8_apply (attempt_apply g (e 0) t i)
      rw [lastText, rewritten, ← hbytes]
      exact ih

theorem mem_rewritten {x : UInt8} {made : List Attempt} {bytes : List UInt8}
    (h : x ∈ rewritten bytes made) :
    x ∈ bytes ∨ ∃ a ∈ made, ∃ e ∈ a.edits, x ∈ e.replacement.utf8 := by
  induction made generalizing bytes with
  | nil => exact .inl h
  | cons a made ih =>
      rcases ih h with hbytes | ⟨b, hb, e, he, hx⟩
      · rcases Edit.mem_spliceBytes hbytes with hbytes | ⟨e, he, hx⟩
        · exact .inl hbytes
        · exact .inr ⟨a, List.mem_cons_self, e, (Edit.sorted_perm a.edits).mem_iff.mp he, hx⟩
      · exact .inr ⟨b, List.mem_cons_of_mem a hb, e, he, hx⟩

/-- A repair that changes a text is a run over its issues. -/
theorem repair_changed {g : Grammar Tree} {e : Engine Tree} {label t : Text} {issues : List Issue}
    {r : Repaired} (h : repair g e label t issues = .ok r) (changed : r.text ≠ t) :
    r.text = lastText t (attempts g (fun _ => e) t issues) := by
  rw [repair] at h
  cases hread : g.read t with
  | error b =>
      rw [repairInTurns_breakdown hread] at h
      cases h
  | ok parsed =>
      cases parsed with
      | error reason =>
          rw [repairInTurns_unparsed hread] at h
          cases h
          exact absurd rfl changed
      | ok tree =>
          rw [repairInTurns_parsed hread] at h
          cases h
          rfl

end Repair

namespace Project

open Repair

/-! ## Files that are written -/

theorem read_of_bytes {w : Workspace} {p : Path} {b : List UInt8} {t : Text}
    (there : w.bytes p = .ok b) (reads : Text.ofUtf8 b = .ok t) :
    w.read p = .ok t.withLineFeeds := by
  rw [Workspace.read, there]
  change ((Text.ofUtf8 b).mapError ReadFault.decoding >>= fun text =>
    Except.ok text.withLineFeeds) = _
  rw [reads]
  rfl

theorem writeText_of_bytes {w : Workspace} {p : Path} {b : List UInt8} (there : w.bytes p = .ok b)
    (t : Text) : ∃ w', writeText w p t = .ok (w', (Text.encodingFault? t).map .unencodable) ∧
      w'.bytes p = .ok (if (Text.encodingFault? t).isSome then [] else t.utf8) := by
  rw [writeText]
  cases Text.encodingFault? t with
  | none =>
      obtain ⟨w', hwrite, hbytes⟩ := Workspace.write_of_bytes there t
      simp only [hwrite]
      exact ⟨w', rfl, hbytes⟩
  | some fault =>
      obtain ⟨w', hwrite, hbytes⟩ := Workspace.write_of_bytes there []
      simp only [hwrite]
      exact ⟨w', rfl, hbytes⟩

/-- A file that is there is saved, unless it cannot be kept under another name before. -/
theorem save_of_bytes {w : Workspace} {p : Path} {b : List UInt8} (there : w.bytes p = .ok b)
    (t : Text) (backup : Bool) :
    (∃ f, backup = true ∧ w.copy p (backupOf p) = .error f ∧ save w p t backup = .error f) ∨
      ∃ w', save w p t backup = .ok (w', (Text.encodingFault? t).map .unencodable) ∧
        w'.bytes p = .ok (if (Text.encodingFault? t).isSome then [] else t.utf8) := by
  rw [save]
  cases backup with
  | false =>
      obtain ⟨w', hwrite, hbytes⟩ := writeText_of_bytes there t
      right
      refine ⟨w', ?_, hbytes⟩
      simp only [Bool.false_eq_true, if_false, pure, Except.pure, bind, Except.bind, hwrite]
      rfl
  | true =>
      cases hcopy : w.copy p (backupOf p) with
      | error f =>
          left
          exact ⟨f, rfl, rfl, rfl⟩
      | ok kept =>
          obtain ⟨w', hwrite, hbytes⟩ := writeText_of_bytes (Workspace.bytes_of_copy there hcopy) t
          right
          refine ⟨w', ?_, hbytes⟩
          simp only [if_true, bind, Except.bind, hwrite]
          rfl

/-- What comes of a file that is written, as texts. -/
theorem repairFile_changed {w : Workspace} {root : Path} {plan : RepairPlan} {file : Text}
    {issues : List Issue} {b : List UInt8} {t : Text} {r : Repaired}
    (there : w.bytes (root ++ Path.ofText file) = .ok b) (reads : Text.ofUtf8 b = .ok t)
    (repaired : Repair.repair scriptGrammar plan.engine file t.withLineFeeds issues = .ok r)
    (writes : plan.write = true) (changed : r.text ≠ t.withLineFeeds) :
    (repairFile w root plan file issues).outcome = .ok (r.ledger, some r.text) ∧
        (repairFile w root plan file issues).workspace.bytes (root ++ Path.ofText file) =
          .ok r.text.utf8 ∨
      (∃ fault, Text.encodingFault? r.text = some fault ∧
        (repairFile w root plan file issues).outcome = .error (.unencodable fault) ∧
        (repairFile w root plan file issues).workspace.bytes (root ++ Path.ofText file) =
          .ok []) ∨
      ∃ f, plan.backups = true ∧
        w.copy (root ++ Path.ofText file) (backupOf (root ++ Path.ofText file)) = .error f ∧
        (repairFile w root plan file issues).outcome =
          .ok (issues.map (LedgerEntry.failed ·.id f.message), none) ∧
        (repairFile w root plan file issues).workspace = w := by
  have hread := read_of_bytes there reads
  have hrun : Repair.repairInTurns scriptGrammar (fun _ => plan.engine) file t.withLineFeeds issues =
      .ok r := repaired
  have hwrites : (plan.write && r.text != t.withLineFeeds) = true := by
    rw [writes, Bool.true_and]
    exact bne_iff_ne.mpr changed
  rcases save_of_bytes there r.text plan.backups with ⟨f, hbackups, hcopy, hsave⟩ |
    ⟨w', hsave, hafter⟩
  · right
    right
    refine ⟨f, hbackups, hcopy, ?_⟩
    simp only [repairFile, repairFileInTurns, hread, hrun, hwrites, if_true, hsave, and_self]
  · cases hfault : Text.encodingFault? r.text with
    | none =>
        left
        rw [hfault] at hsave hafter
        simp only [repairFile, repairFileInTurns, hread, hrun, hwrites, if_true, hsave,
          Option.map_none, true_and]
        exact hafter
    | some fault =>
        right
        left
        rw [hfault] at hsave hafter
        refine ⟨fault, rfl, ?_⟩
        simp only [repairFile, repairFileInTurns, hread, hrun, hwrites, if_true, hsave,
          Option.map_some, true_and]
        exact hafter

/-- What the repair of a file leaves on the disk when the file is written at all and the repair
changes its text. Either the file has the bytes of the file with line feeds for line ends, with the edits
of the attempts made in them and all else kept; these are the bytes of the file itself just when it has
no carriage return, and those that it has are lost. Or the repaired text cannot be encoded, and
the file is left empty. Or the file could not be kept under another name, and the disk is as it was. -/
theorem repairFile_bytes {w : Workspace} {root : Path} {plan : RepairPlan} {file : Text}
    {issues : List Issue} {b : List UInt8} {t : Text} {r : Repaired}
    (there : w.bytes (root ++ Path.ofText file) = .ok b) (reads : Text.ofUtf8 b = .ok t)
    (repaired : Repair.repair scriptGrammar plan.engine file t.withLineFeeds issues = .ok r)
    (writes : plan.write = true) (changed : r.text ≠ t.withLineFeeds) :
    ∃ made, made = attempts scriptGrammar (fun _ => plan.engine) t.withLineFeeds issues ∧
      ((repairFile w root plan file issues).outcome = .ok (r.ledger, some r.text) ∧
          (repairFile w root plan file issues).workspace.bytes (root ++ Path.ofText file) =
            .ok (rewritten (lineFeedBytes b) made) ∨
        (∃ fault, Text.encodingFault? r.text = some fault ∧
          (repairFile w root plan file issues).outcome = .error (.unencodable fault) ∧
          (repairFile w root plan file issues).workspace.bytes (root ++ Path.ofText file) =
            .ok []) ∨
        ∃ f, plan.backups = true ∧
          w.copy (root ++ Path.ofText file) (backupOf (root ++ Path.ofText file)) = .error f ∧
          (repairFile w root plan file issues).outcome =
            .ok (issues.map (LedgerEntry.failed ·.id f.message), none) ∧
          (repairFile w root plan file issues).workspace = w) ∧
      (lineFeedBytes b = b ↔ returnByte ∉ b) ∧
      ((∀ a ∈ made, ∀ e ∈ a.edits, returnByte ∉ e.replacement.utf8) →
        returnByte ∉ rewritten (lineFeedBytes b) made) := by
  have hbytes : t.withLineFeeds.utf8 = lineFeedBytes b := by
    rw [Text.utf8_withLineFeeds (Text.isSurrogate_of_ofUtf8 reads), Text.utf8_of_ofUtf8 reads]
  have htext : r.text.utf8 = rewritten (lineFeedBytes b)
      (attempts scriptGrammar (fun _ => plan.engine) t.withLineFeeds issues) := by
    rw [repair_changed repaired changed, attempts, utf8_lastText, hbytes]
  refine ⟨_, rfl, ?_, lineFeedBytes_eq_self, ?_⟩
  · rw [← htext]
    exact repairFile_changed there reads repaired writes changed
  · intro hplain hmem
    rcases mem_rewritten hmem with hfile | ⟨a, ha, e, he, hx⟩
    · exact returnByte_not_mem_lineFeedBytes b hfile
    · exact hplain a ha e he hx

/-! A file whose first line ends in a carriage return and a line feed, in front of a call that
is repaired. -/

namespace Returned

def bytes : List UInt8 := Text.utf8 (Text.ofString "\r\nrun(\"a\"+b)")

def workspace : Workspace := ⟨⟨[([Text.ofString "a.js"], .file bytes)]⟩, []⟩

def root : Path := ⟨.top, []⟩

theorem ready : scriptEngine.fixers.isEmpty = false := rfl

def plan : RepairPlan := { ready, backups := false }

def text : Text := "\nrun(\"a\"+b)"

def repaired : Text := "\nrun(\"a?\", [b])"

def mark : Issue.Mark := ⟨IssueType.sqlInjection, 2, some 0⟩

def proposed : Proposal where
  edits := [⟨5, 10, "\"a?\"", by decide⟩, Edit.insert 10 ", [b]"]
  explanation := "Converted string concatenation to parameterized query to prevent SQL injection"

/-- The call is found, and how it is to be repaired. -/
theorem text_facts :
    Script.isPlain text = true ∧
      ((Script.ofText text).found "a.js").map Issue.mark = [mark] ∧
      (Query.fixer.propose (Script.ofText text)
        (Issue.someAt mark.line mark.column)).toOption = some proposed := by
  rw [text, Text.ofString_ofList]
  decide +kernel

theorem attempt_text {j : Issue} (h : j.mark = mark) :
    attempt scriptGrammar scriptEngine text j =
      ⟨j, text, .applied proposed.edits repaired proposed.explanation⟩ := by
  obtain ⟨hplain, -, hpropose⟩ := text_facts
  have hplain' : Script.isPlain repaired = true := by
    rw [repaired, Text.ofString_ofList]
    decide +kernel
  have happly : Edit.apply text proposed.edits = .ok repaired := by
    rw [Edit.apply, proposed, Edit.sorted, StableSort.mergeSort_pair]
    decide
  exact attempt_of_proposal (fixerFor?_sqlInjection (congrArg Issue.Mark.type h))
    (read_of_isPlain hplain) (Query.propose_of_mark hpropose h) (accept_of_isPlain happly hplain')

/-- What a scan of the text finds, and what comes of its repair. -/
theorem repair_text : ∃ (a : Analysis) (i : Issue) (r : Repaired),
    scanTextFor none text "a.js" = .ok a ∧ a.issues = [i] ∧
      attempts scriptGrammar (fun _ => scriptEngine) text a.issues =
        [⟨i, text, .applied proposed.edits repaired proposed.explanation⟩] ∧
      Repair.repair scriptGrammar plan.engine "a.js" text a.issues = .ok r ∧
      r.text = repaired := by
  obtain ⟨hplain, hfound, -⟩ := text_facts
  obtain ⟨x, more, hx, hmark, hmore⟩ := List.map_eq_cons_iff.mp hfound
  rw [List.map_eq_nil_iff.mp hmore] at hx
  obtain ⟨a, i, hscan, hissues, horder, himark, -⟩ := scan_singleton hplain hx
  have hattempts := attempts_singleton (g := scriptGrammar) (e := fun _ => scriptEngine)
    (t := text) horder
  rw [attempt_text (himark.trans hmark)] at hattempts
  have hrepair := repairInTurns_parsed (read_of_isPlain hplain) (fun _ => scriptEngine) "a.js"
    a.issues
  rw [hattempts] at hrepair
  exact ⟨a, i, _, hscan, hissues, hattempts, hrepair, rfl⟩

theorem there : workspace.bytes (root ++ Path.ofText "a.js") = .ok bytes :=
  ok_of_toOption (by decide)

theorem edits_behind : ∀ e ∈ proposed.edits, 5 ≤ e.start := by decide

theorem encodable : Text.encodingFault? repaired = none := rfl

theorem reads : ∃ t, Text.ofUtf8 bytes = .ok t ∧ t.withLineFeeds = text :=
  ⟨Text.ofString "\r\nrun(\"a\"+b)", ok_of_toOption (by decide), by decide⟩

end Returned

theorem repairFile_bytes_sample :
    ∃ (a : Analysis) (r : Repaired), scanTextFor none Returned.text "a.js" = .ok a ∧
      r.text = Returned.repaired ∧
      (repairFile Returned.workspace Returned.root Returned.plan "a.js" a.issues).outcome =
        .ok (r.ledger, some r.text) ∧
      ∃ made, made = attempts scriptGrammar (fun _ => scriptEngine) Returned.text a.issues ∧
        (repairFile Returned.workspace Returned.root Returned.plan "a.js"
            a.issues).workspace.bytes (Returned.root ++ Path.ofText "a.js") =
          .ok (rewritten (lineFeedBytes Returned.bytes) made) := by
  obtain ⟨a, i, r, hscan, -, -, hrepair, htext⟩ := Returned.repair_text
  obtain ⟨t, hreads, hfeeds⟩ := Returned.reads
  have hchanged : r.text ≠ t.withLineFeeds := by
    rw [htext, hfeeds]
    decide
  rw [← hfeeds] at hrepair
  obtain ⟨made, hmade, hcases, -⟩ :=
    repairFile_bytes Returned.there hreads hrepair rfl hchanged
  rw [hfeeds] at hmade
  rcases hcases with ⟨houtcome, hbytes⟩ | ⟨fault, hfault, -⟩ | ⟨f, hbackups, -⟩
  · exact ⟨a, r, hscan, htext, houtcome, made, hmade, hbytes⟩
  · rw [htext, Returned.encodable] at hfault
    cases hfault
  · cases hbackups

/-- A repair does not keep the bytes outside of its edits. The carriage return at the start of this
file stands in front of all that is edited, and it is gone when the file has been written. -/
theorem line_end_lost :
    ∃ (a : Analysis) (entries : List LedgerEntry) (b' : List UInt8),
      scanTextFor none Returned.text "a.js" = .ok a ∧
      Returned.workspace.bytes (Returned.root ++ Path.ofText "a.js") = .ok Returned.bytes ∧
      (repairFile Returned.workspace Returned.root Returned.plan "a.js" a.issues).outcome =
        .ok (entries, some Returned.repaired) ∧
      entries.map (·.success) = [true] ∧
      (repairFile Returned.workspace Returned.root Returned.plan "a.js"
        a.issues).workspace.bytes (Returned.root ++ Path.ofText "a.js") = .ok b' ∧
      (∀ m ∈ attempts scriptGrammar (fun _ => scriptEngine) Returned.text a.issues,
        ∀ e ∈ m.edits, 5 ≤ e.start) ∧
      Returned.bytes.take 2 = [returnByte, lineFeedByte] ∧ returnByte ∉ b' := by
  obtain ⟨a, i, r, hscan, -, hattempts, hrepair, htext⟩ := Returned.repair_text
  obtain ⟨t, hreads, hfeeds⟩ := Returned.reads
  have hchanged : r.text ≠ t.withLineFeeds := by
    rw [htext, hfeeds]
    decide
  have hsuccess : r.ledger.map (·.success) = [true] := by
    have hparsed := repairInTurns_parsed (read_of_isPlain Returned.text_facts.1)
      (fun _ => scriptEngine) "a.js" a.issues
    rw [hattempts] at hparsed
    cases hparsed.symm.trans hrepair
    rfl
  rw [← hfeeds] at hrepair
  rcases repairFile_changed Returned.there hreads hrepair rfl hchanged with ⟨houtcome, hbytes⟩ |
    ⟨fault, hfault, -⟩ | ⟨f, hbackups, -⟩
  · rw [htext] at houtcome hbytes
    refine ⟨a, r.ledger, _, hscan, Returned.there, houtcome, hsuccess, hbytes, ?_, ?_, ?_⟩
    · rw [hattempts]
      intro m hm e he
      rw [List.mem_singleton.mp hm] at he
      exact Returned.edits_behind e he
    · decide
    · decide
  · rw [htext, Returned.encodable] at hfault
    cases hfault
  · cases hbackups

end Project

end Readiness
