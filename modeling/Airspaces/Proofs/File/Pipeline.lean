import Airspaces.Proofs.File.Cursor
import Airspaces.Proofs.OpenAir.Records
import Airspaces.Proofs.Tnp.Records
/-! Reading a file in stages. Comments are dropped, then lines that say nothing, then the
lines before the first one that tells the kind of the file, and one dialect reads what is
left. -/
namespace Airspaces

variable {α : Type} [Scalar α]

/-- The lines that say something, without their comments. -/
def significant (raws : List Text) : List Text := (raws.map stripComment).filter (!·.isEmpty)

/-- The lines that say something, from the first one on that tells the kind of the file. -/
def dialectLines (raws : List Text) : List Text :=
  (significant raws).dropWhile (FileKind.detect · = .unknown)

/-- What the dialect of a kind hands out for lines. -/
def readAs (g : Geodesy α) : FileKind → List Text → Except (Fault α) (List (Airspace α))
  | .unknown, _ => .ok []
  | .openAir, lines => OpenAir.readLines g lines
  | .tnp, lines => Tnp.readLines g lines

/-- The first line of the dialect tells the kind of the file. -/
theorem dialectLines_head {raws rest : List Text} {first : Text}
    (told : dialectLines raws = first :: rest) : FileKind.detect first ≠ .unknown := by
  have kept := List.head?_dropWhile_not (FileKind.detect · = .unknown) (significant raws)
  rw [← dialectLines, told] at kept
  simpa using kept

theorem significant_cons (raw : Text) (rest : List Text) :
    significant (raw :: rest) =
      if (stripComment raw).isEmpty then significant rest
      else stripComment raw :: significant rest := by
  unfold significant
  rw [List.map_cons, List.filter_cons]
  cases (stripComment raw).isEmpty <;> rfl

namespace Cursor

variable (g : Geodesy α)

theorem feed_take (c : Cursor α) (raws : List Text) :
    feed (take g) c raws = feed (read g) c (significant raws) := by
  induction raws generalizing c with
  | nil => rfl
  | cons raw rest ih =>
    rw [significant_cons]
    by_cases blank : (stripComment raw).isEmpty
    · have leaves : take g raw c = .leave c := by rw [take, if_pos blank]
      rw [feed_leave leaves, ih, if_pos blank]
    · have reads : take g raw c = read g (stripComment raw) c := by rw [take, if_neg blank]
      simp only [if_neg blank, feed, reads, ih]

theorem read_unknown {line : Text} (unknown : FileKind.detect line = .unknown)
    (s : Tnp.State α) : read g line ⟨.unknown, s⟩ = .leave ⟨.unknown, s⟩ := by
  simp only [read, kindAfter, unknown, if_true]
  rfl

/-- A file of unknown kind waits for the line that tells it. -/
theorem feed_unknown (s : Tnp.State α) (lines : List Text) :
    feed (read g) ⟨.unknown, s⟩ lines =
      feed (read g) ⟨.unknown, s⟩ (lines.dropWhile (FileKind.detect · = .unknown)) := by
  induction lines with
  | nil => rfl
  | cons line rest ih =>
    by_cases unknown : FileKind.detect line = .unknown
    · rw [feed_leave (read_unknown g unknown s), ih, List.dropWhile_cons,
        if_pos (decide_eq_true unknown)]
    · rw [List.dropWhile_cons, if_neg (by simpa using unknown)]

/-- No line is bad before the kind is told. -/
theorem badLines_unknown (s : Tnp.State α) (first : Nat) {raws : List Text}
    (untold : dialectLines raws = []) :
    (⟨.unknown, s⟩ : Cursor α).badLines g first raws = [] := by
  induction raws generalizing first with
  | nil => rfl
  | cons raw rest ih =>
    have leaves : take g raw ⟨.unknown, s⟩ = .leave ⟨.unknown, s⟩ ∧ dialectLines rest = [] := by
      rw [dialectLines, significant_cons] at untold
      by_cases blank : (stripComment raw).isEmpty
      · rw [if_pos blank] at untold
        exact ⟨by rw [take, if_pos blank], untold⟩
      · rw [if_neg blank, List.dropWhile_eq_nil_iff] at untold
        have unknown := untold (stripComment raw) List.mem_cons_self
        refine ⟨?_, List.dropWhile_eq_nil_iff.mpr fun line member =>
          untold line (List.mem_cons_of_mem _ member)⟩
        rw [take, if_neg blank, read_unknown g (of_decide_eq_true unknown)]
    rw [badLines_cons, leaves.1]
    exact ih (first + 1) leaves.2

/-- The line that tells the kind is itself read by its dialect. -/
theorem feed_detecting {first : Text} (known : FileKind.detect first ≠ .unknown)
    (s : Tnp.State α) (rest : List Text) :
    feed (read g) ⟨.unknown, s⟩ (first :: rest) =
      feed (read g) ⟨FileKind.detect first, s⟩ (first :: rest) := by
  have same : read g first ⟨.unknown, s⟩ = read g first ⟨FileKind.detect first, s⟩ := by
    simp only [read, kindAfter, if_true, known, if_false]
  rw [feed, feed, same]

/-- A file of known kind stays with its dialect. -/
theorem feed_known {kind : FileKind} (known : kind ≠ .unknown) (s : Tnp.State α)
    (lines : List Text) :
    feed (read g) ⟨kind, s⟩ lines =
      (feed (Ledger.stepOf g kind) s lines).map fun (t, out) => (⟨kind, t⟩, out) := by
  refine feed_map (Ledger.stepOf g kind) (read g) (mk kind) (fun line t => ?_) s lines
  simp only [read, kindAfter, known, if_false]

/-- Lines fed to the start of a file are those of its dialect, fed to the dialect. -/
theorem feed_dialect (raws : List Text) :
    feed (take g) {} raws =
      match dialectLines raws with
      | [] => .ok ({}, [])
      | first :: rest =>
        (feed (Ledger.stepOf g (FileKind.detect first)) {} (first :: rest)).map fun (s, out) =>
          (⟨FileKind.detect first, s⟩, out) := by
  have staged : feed (take g) {} raws = feed (read g) {} (dialectLines raws) :=
    (feed_take g {} raws).trans (feed_unknown g {} (significant raws))
  rw [staged]
  cases told : dialectLines raws with
  | nil => rfl
  | cons first rest =>
    have known := dialectLines_head told
    exact (feed_detecting g known {} rest).trans (feed_known g known {} (first :: rest))

theorem readAs_eq_feed {kind : FileKind} (known : kind ≠ .unknown) (lines : List Text) :
    readAs g kind lines =
      (feed (Ledger.stepOf g kind) {} lines).map fun (s, out) => out ++ s.record.pending := by
  cases kind with
  | unknown => exact absurd rfl known
  | openAir =>
    have alone := feed_map (OpenAir.step g) (Ledger.stepOf g .openAir) (fun r => { record := r })
      (fun _ _ => rfl) .fresh lines
    rw [readAs, OpenAir.readLines, alone]
    cases feed (OpenAir.step g) .fresh lines <;> rfl
  | tnp => rfl

end Cursor

/-- What reading without regard to line errors comes to, told from the lines of the dialect. -/
def Staged (g : Geodesy α) (lines : List Text) (o : Outcome α) : Prop :=
  match lines with
  | [] =>
    o.inserted = [] ∧ ∃ r, o.result = .ok r ∧ r.kind = .unknown ∧
      r.failure = some (.unknownFileType, Ledger.unknownMessage) ∧ r.skipped = []
  | first :: rest =>
    match readAs g (FileKind.detect first) (first :: rest) with
    | .error f => o.result = .error f
    | .ok airspaces =>
      o.inserted = airspaces ∧ ∃ r, o.result = .ok r ∧
        r.kind = FileKind.detect first ∧ r.failure = none ∧ r.count = airspaces.length

theorem Staged.inserted_eq {g : Geodesy α} {lines : List Text} {o o' : Outcome α} {r : ParseResult}
    (staged : Staged g lines o) (staged' : Staged g lines o') (read : o.result = .ok r) :
    o'.inserted = o.inserted := by
  cases lines with
  | nil => exact staged'.1.trans staged.1.symm
  | cons first rest =>
    unfold Staged at staged staged'
    cases fed : readAs g (FileKind.detect first) (first :: rest) with
    | error f =>
      simp only [fed] at staged
      cases read.symm.trans staged
    | ok airspaces =>
      simp only [fed] at staged staged'
      exact staged'.1.trans staged.1.symm

theorem parse_staged (g : Geodesy α) (size : Nat) (lines : List (Text × Nat)) :
    Staged g (dialectLines (lines.map (·.1)))
      (parse g (fun _ => true) ⟨size, lines, .finished⟩) := by
  have ended := parse_skipping g ⟨size, lines, .finished⟩
  rw [Source.texts, Cursor.feed_dialect g] at ended
  unfold Staged
  cases told : dialectLines (lines.map (·.1)) with
  | nil =>
    have none_bad := Cursor.badLines_unknown g {} 1 told
    rw [told] at ended
    exact ⟨ended.inserted, _, ended.result, rfl, rfl, none_bad⟩
  | cons first rest =>
    have known := dialectLines_head told
    rw [told] at ended
    dsimp only at ended ⊢
    rw [Cursor.readAs_eq_feed g known]
    cases fed : feed (Ledger.stepOf g (FileKind.detect first)) {} (first :: rest) with
    | error f =>
      simp only [fed, Except.map] at ended ⊢
      exact ended
    | ok result =>
      obtain ⟨s, out⟩ := result
      simp only [fed, Except.map, Cursor.finish, known, if_false] at ended ⊢
      exact ⟨ended.inserted, _, ended.result, rfl, rfl, rfl⟩

/-- A comment is no part of its line. -/
theorem stripComment_comment (t comment : Text) :
    stripComment (t ++ '*' :: comment) = stripComment t := by
  have before : (t ++ '*' :: comment).takeWhile (· != '*') = t.takeWhile (· != '*') := by
    rw [List.takeWhile_append]
    split_ifs with plain
    · have whole := List.takeWhile_prefix (p := (· != '*')) (l := t)
      simp [whole.eq_of_length plain]
    · rfl
  rw [stripComment, before, stripComment]

/-- Nor is white space at its end. -/
theorem stripComment_blank (t : Text) {b : Char} (blank : Text.isBlank b) :
    stripComment (t ++ [b]) = stripComment t := by
  have plain : b ≠ '*' := by
    rintro rfl
    exact absurd blank (by decide)
  unfold stripComment
  rw [List.takeWhile_append]
  split_ifs with whole
  · have same := (List.takeWhile_prefix (p := (· != '*')) (l := t)).eq_of_length whole
    simp [same, plain, Text.trimEndBy, blank]
  · rfl

/-- Lines that lose something that has no say: a comment, a blank at the end of a line, an empty
line, or the lines before the kind of the file is told. -/
inductive Sheds : List Text → List Text → Prop where
  | comment (before after : List Text) (t comment : Text) :
    Sheds (before ++ (t ++ '*' :: comment) :: after) (before ++ t :: after)
  | blank (before after : List Text) (t : Text) {b : Char} (blank : Text.isBlank b) :
    Sheds (before ++ (t ++ [b]) :: after) (before ++ t :: after)
  | empty (before after : List Text) : Sheds (before ++ [] :: after) (before ++ after)
  | untold (before after : List Text)
    (unknown : ∀ raw ∈ before, FileKind.detect (stripComment raw) = .unknown) :
    Sheds (before ++ after) after

theorem significant_append (raws rest : List Text) :
    significant (raws ++ rest) = significant raws ++ significant rest := by
  simp [significant]

theorem significant_congr {raw raw' : Text} (same : stripComment raw = stripComment raw')
    (before after : List Text) :
    significant (before ++ raw :: after) = significant (before ++ raw' :: after) := by
  rw [significant_append, significant_append, significant_cons, significant_cons, same]

theorem Sheds.dialectLines_eq {raws raws' : List Text} (sheds : Sheds raws raws') :
    dialectLines raws' = dialectLines raws := by
  unfold dialectLines
  cases sheds with
  | comment before after t comment =>
    rw [significant_congr (stripComment_comment t comment)]
  | blank before after t blank => rw [significant_congr (stripComment_blank t blank)]
  | empty before after =>
    have nothing : (stripComment []).isEmpty = true := rfl
    rw [significant_append, significant_append, significant_cons, if_pos nothing]
  | untold before after unknown =>
    have passed : (significant before).dropWhile (FileKind.detect · = .unknown) = [] := by
      rw [List.dropWhile_eq_nil_iff]
      intro line member
      obtain ⟨raw, listed, rfl⟩ := List.mem_map.mp (List.mem_of_mem_filter member)
      exact decide_eq_true (unknown raw listed)
    rw [significant_append, List.dropWhile_append, passed]
    rfl

/-- Reading without regard to line errors is reading in stages. Nothing has a say in the
airspaces but the lines of the dialect: no comment, no line that is blank or a comment, and
no line before the kind of the file is told. -/
theorem parse_in_stages (g : Geodesy α) (size : Nat) (lines : List (Text × Nat)) :
    let outcome := parse g (fun _ => true) ⟨size, lines, .finished⟩
    Staged g (dialectLines (lines.map (·.1))) outcome ∧
      (∀ size' lines' r, dialectLines (lines'.map (·.1)) = dialectLines (lines.map (·.1)) →
        outcome.result = .ok r →
          (parse g (fun _ => true) ⟨size', lines', .finished⟩).inserted = outcome.inserted) ∧
      ∀ raws, Sheds (lines.map (·.1)) raws →
        dialectLines raws = dialectLines (lines.map (·.1)) := by
  intro outcome
  have staged := parse_staged g size lines
  refine ⟨staged, ?_, fun raws sheds => sheds.dialectLines_eq⟩
  intro size' lines' r same read
  have staged' := parse_staged g size' lines'
  rw [same] at staged'
  exact staged.inserted_eq staged' read

theorem parse_in_stages_of_comments :
    let bare := [("TYPE=R".toList, 1), ("POINT=N533813 E0095943".toList, 2)]
    let lines := [
      ("* Danger areas".toList, 1),
      ("CLASS=A".toList, 2),
      ("TYPE=R * restricted".toList, 3),
      ("   ".toList, 4),
      ("POINT=N533813 E0095943 ".toList, 5)]
    (parse .still (fun _ => true) ⟨0, lines, .finished⟩).inserted =
        (parse .still (fun _ => true) ⟨0, bare, .finished⟩).inserted ∧
      (parse .still (fun _ => true) ⟨0, bare, .finished⟩).inserted.length = 1 ∧
      dialectLines ([] :: (lines.map (·.1)).drop 1) = dialectLines (lines.map (·.1)) := by
  intro bare lines
  have returns : (parse .still (fun _ => true) ⟨0, bare, .finished⟩).result.toOption.isSome := by
    decide +kernel
  have shed : Sheds (lines.map (·.1)) ([] :: (lines.map (·.1)).drop 1) :=
    .comment [] _ [] " Danger areas".toList
  refine ⟨?_, by decide +kernel, (parse_in_stages .still 0 lines).2.2 _ shed⟩
  cases read : (parse .still (fun _ => true) ⟨0, bare, .finished⟩).result with
  | error f =>
    rw [read] at returns
    cases returns
  | ok r => exact (parse_in_stages .still 0 bare).2.1 0 lines r (by decide +kernel) read

end Airspaces
