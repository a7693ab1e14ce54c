import VpsManager.Lib.Decimal
import VpsManager.Lib.Joined
import VpsManager.Runbook.Sigterm

namespace VpsManager.Runbook

open Go Shell

theorem awkFields_blank (before after : List Char) :
    awkFields (before ++ ' ' :: after) = awkFields before ++ awkFields after := by
  rw [awkFields, List.splitOnP_append_cons before after (by decide), List.filter_append]
  rfl

variable {word record text : List Char}

theorem awkFields_word (nonempty : word ≠ []) (plain : ∀ c ∈ word, isBlank c = false) :
    awkFields word = [word] := by
  rw [awkFields, List.splitOnP_eq_singleton plain]
  simp [nonempty]

def Word (text : String) : Prop := text ≠ "" ∧ ∀ c ∈ text.toList, isBlank c = false ∧ c ≠ '\n'

theorem Word.awkFields {text : String} (word : Word text) :
    awkFields text.toList = [text.toList] := by
  refine awkFields_word ?_ fun c member => (word.2 c member).1
  intro empty
  exact word.1 (String.toList_eq_nil_iff.mp empty)

theorem awkFields_intercalate {words : List String} (nonempty : words ≠ [])
    (all : ∀ word ∈ words, Word word) :
    awkFields (" ".intercalate words).toList = words.map String.toList := by
  rw [String.toList_intercalate]
  induction words with
  | nil => contradiction
  | cons word rest ih =>
    obtain ⟨first, others⟩ := List.forall_mem_cons.mp all
    cases rest with
    | nil => simpa [List.intercalate] using first.awkFields
    | cons next rest =>
      have later := ih (by simp) others
      have split : " ".toList.intercalate ((word :: next :: rest).map String.toList) =
          word.toList ++ ' ' :: " ".toList.intercalate ((next :: rest).map String.toList) := rfl
      rw [split, awkFields_blank, later, first.awkFields]
      rfl

theorem word_int (n : Int) : Word (toString n) := by
  constructor
  · intro empty
    exact Decimal.int_ne_nil n (String.toList_eq_nil_iff.mpr empty)
  · intro c member
    rcases Decimal.int_chars n c member with rfl | digit
    · decide
    · constructor
      · by_contra blank
        rw [Bool.not_eq_false, isBlank, Bool.or_eq_true, beq_iff_eq, beq_iff_eq] at blank
        rcases blank with rfl | rfl <;> revert digit <;> decide
      · rintro rfl
        revert digit
        decide

theorem word_nat (n : Nat) : Word (toString n) := word_int n

/-- A name that is one word. -/
def Process.PlainName (process : Process) : Prop :=
  ∀ c ∈ process.comm.toList, isBlank c = false ∧ c ≠ '\n'

instance (process : Process) : Decidable process.PlainName :=
  List.decidableBAll (fun c => isBlank c = false ∧ c ≠ '\n') process.comm.toList

theorem records_line {line : List Char} (single : '\n' ∉ line) :
    records (line ++ ['\n']) = [line] := by
  have cut : (line ++ ['\n']).splitOn '\n' = [line, []] := by
    rw [List.splitOn_append_cons_self_of_not_mem single, List.splitOn_nil]
  simp [records, cut]

section PlainName

variable {process : Process} (pid : Int)

theorem Process.words (process : Process) :
    ∀ word ∈ process.middle ++ toString process.startTicks :: process.rest, Word word := by
  intro word member
  rcases List.mem_append.mp member with middle | later
  · exact process.plain word (List.mem_append_left _ middle)
  · rcases List.mem_cons.mp later with rfl | rest
    · exact word_nat process.startTicks
    · exact process.plain word (List.mem_append_right _ rest)

theorem Word.toList {text : String} (word : Word text) : '\n' ∉ text.toList :=
  fun member => (word.2 _ member).2 rfl

def Process.statLine (pid : Int) (process : Process) : List Char :=
  (toString pid).toList ++ ' ' :: (('(' :: process.comm.toList ++ [')']) ++
    ' ' :: (" ".intercalate
      (process.middle ++ toString process.startTicks :: process.rest)).toList)

theorem Process.stat_eq (process : Process) :
    (process.stat pid).toList = process.statLine pid ++ ['\n'] := by
  simp [Process.stat, Process.statLine, String.toList_append]

theorem Process.awkFields_statLine (process : Process) :
    awkFields (process.statLine pid) =
      (toString pid).toList :: awkFields ('(' :: process.comm.toList ++ [')']) ++
        (process.middle ++ toString process.startTicks :: process.rest).map String.toList := by
  rw [Process.statLine, awkFields_blank, awkFields_blank, (word_int pid).awkFields,
    awkFields_intercalate (by simp) process.words]
  simp

theorem records_stat (single : '\n' ∉ process.comm.toList) :
    records (process.stat pid).toList = [process.statLine pid] := by
  have fields : '\n' ∉ (" ".intercalate
      (process.middle ++ toString process.startTicks :: process.rest)).toList := by
    rw [String.toList_intercalate]
    intro member
    rcases Joined.mem_of_mem_intercalate member with blank | ⟨part, listed, inside⟩
    · cases blank
    · obtain ⟨word, present, rfl⟩ := List.mem_map.mp listed
      exact (process.words word present).toList inside
  rw [process.stat_eq pid]
  refine records_line ?_
  simp only [Process.statLine, List.mem_append, List.mem_cons, List.not_mem_nil, or_false, not_or]
  exact ⟨(word_int pid).toList, by decide, ⟨⟨by decide, single⟩, by decide⟩, by decide, fields⟩

/-- With a plain name, the start ticks are the 22nd word. -/
theorem plainName_field22 (plain : process.PlainName) :
    (awkFields (process.statLine pid))[21]? = some (toString process.startTicks).toList := by
  have name : awkFields ('(' :: process.comm.toList ++ [')']) =
      ['(' :: process.comm.toList ++ [')']] := by
    refine awkFields_word (by simp) ?_
    intro c member
    simp only [List.cons_append, List.mem_cons, List.mem_append, List.not_mem_nil, or_false]
      at member
    rcases member with rfl | inside | rfl
    · decide
    · exact (plain c inside).1
    · decide
  have length := process.middle_length
  rw [process.awkFields_statLine pid, name]
  simp [length]

end PlainName

/-- The first line has the text as its 22nd word, and no later line has so many. -/
def ShowsWord22 (word : List Char) (text : List Char) : Prop :=
  ∃ first rest, records text = first :: rest ∧ (awkFields first)[21]? = some word ∧
    ∀ record ∈ rest, (awkFields record)[21]? = none

theorem mem_awkFields {field : List Char} (member : field ∈ awkFields record) :
    field ≠ [] ∧ ∀ c ∈ field, c ∈ record := by
  obtain ⟨part, kept⟩ := List.mem_filter.mp member
  refine ⟨?_, fun c inside => (Joined.mem_of_mem_splitOnP part c inside).1⟩
  rintro rfl
  cases kept

theorem newline_not_mem_records (member : record ∈ records text) : '\n' ∉ record := by
  have part : record ∈ text.splitOn '\n' := by
    unfold records at member
    dsimp only at member
    split at member
    · exact List.mem_of_mem_dropLast member
    · exact member
  intro inside
  have other := (Joined.mem_of_mem_splitOnP part _ inside).2
  revert other
  decide

/-- What `awk` prints for one record. -/
def field22 (record : List Char) : List Char := (awkFields record).getD 21 []

theorem newline_not_mem_field22 (member : record ∈ records text) : '\n' ∉ field22 record := by
  intro inside
  unfold field22 at inside
  rw [List.getD_eq_getElem?_getD] at inside
  cases found : (awkFields record)[21]? with
  | none => simp [found] at inside
  | some field =>
    rw [found, Option.getD_some] at inside
    exact newline_not_mem_records member
      ((mem_awkFields (List.mem_of_getElem? found)).2 _ inside)

theorem field22_eq_nil_iff (record : List Char) :
    field22 record = [] ↔ (awkFields record)[21]? = none := by
  unfold field22
  rw [List.getD_eq_getElem?_getD]
  cases found : (awkFields record)[21]? with
  | none => simp
  | some field => simpa using (mem_awkFields (List.mem_of_getElem? found)).1

theorem field22_eq_iff (nonempty : word ≠ []) (record : List Char) :
    field22 record = word ↔ (awkFields record)[21]? = some word := by
  unfold field22
  rw [List.getD_eq_getElem?_getD]
  cases (awkFields record)[21]? with
  | none => simpa using nonempty.symm
  | some field => simp

/-- A text is cut before the line breaks at its end. -/
theorem rdropWhile_newline_iff (nonempty : word ≠ []) (single : '\n' ∉ word) :
    text.rdropWhile (· == '\n') = word ↔
      ∃ breaks, text = word ++ breaks ∧ ∀ c ∈ breaks, c = '\n' := by
  constructor
  · rintro rfl
    refine ⟨(text.reverse.takeWhile (· == '\n')).reverse, ?_, ?_⟩
    · rw [List.rdropWhile, ← List.reverse_append, List.takeWhile_append_dropWhile,
        List.reverse_reverse]
    · intro c member
      have isBreak := List.mem_takeWhile_imp (List.mem_reverse.mp member)
      exact beq_iff_eq.mp isBreak
  · rintro ⟨breaks, rfl, all⟩
    have dropped : ∀ c ∈ breaks.reverse, (c == '\n') = true := by
      intro c member
      exact beq_iff_eq.mpr (all c (List.mem_reverse.mp member))
    obtain ⟨last, front, reversed⟩ :=
      List.exists_cons_of_ne_nil (List.reverse_ne_nil_iff.mpr nonempty)
    have kept : (last == '\n') = false := by
      refine beq_eq_false_iff_ne.mpr ?_
      rintro rfl
      exact single (List.mem_reverse.mp (reversed ▸ List.mem_cons_self))
    rw [List.rdropWhile, List.reverse_append, List.dropWhile_append_of_pos dropped, reversed,
      List.dropWhile_cons_of_neg (by simp [kept]), ← reversed, List.reverse_reverse]

theorem lines_eq_iff {lines : List (List Char)} (nonempty : word ≠ []) (single : '\n' ∉ word)
    (plain : ∀ line ∈ lines, '\n' ∉ line) :
    (lines.flatMap fun line => line ++ ['\n']).rdropWhile (· == '\n') = word ↔
      ∃ rest, lines = word :: rest ∧ ∀ line ∈ rest, line = [] := by
  rw [rdropWhile_newline_iff nonempty single]
  constructor
  · rintro ⟨breaks, printed, all⟩
    cases lines with
    | nil => exact absurd (List.append_eq_nil_iff.mp printed.symm).1 nonempty
    | cons first rest =>
      rw [List.flatMap_cons, List.append_assoc, List.singleton_append] at printed
      cases breaks with
      | nil =>
        rw [List.append_nil] at printed
        exact absurd (printed ▸ List.mem_append_right _ List.mem_cons_self) single
      | cons c breaks =>
        obtain ⟨rfl, later⟩ := List.forall_mem_cons.mp all
        have cut := congrArg (List.splitOn '\n') printed
        rw [List.splitOn_append_cons_self_of_not_mem (plain first List.mem_cons_self),
          List.splitOn_append_cons_self_of_not_mem single] at cut
        obtain ⟨rfl, -⟩ := List.cons.inj cut
        have blank := (List.cons.inj (List.append_cancel_left printed)).2
        refine ⟨rest, rfl, ?_⟩
        intro line member
        refine List.eq_nil_iff_forall_not_mem.mpr ?_
        intro c inside
        have listed : c ∈ breaks := by
          rw [← blank]
          exact List.mem_flatMap.mpr ⟨line, member, List.mem_append_left _ inside⟩
        exact plain line (List.mem_cons_of_mem _ member) (later c listed ▸ inside)
  · rintro ⟨rest, rfl, blank⟩
    refine ⟨'\n' :: rest.flatMap fun line => line ++ ['\n'], by simp, ?_⟩
    refine List.forall_mem_cons.mpr ⟨rfl, ?_⟩
    intro c member
    obtain ⟨line, listed, inside⟩ := List.mem_flatMap.mp member
    rw [blank line listed, List.nil_append] at inside
    exact List.mem_singleton.mp inside

/-- The output of `awk`, one line for each record, is a word once the line breaks at its
end are dropped exactly if the first record has that word and the others have none. -/
theorem printField22_eq_iff (nonempty : word ≠ []) (single : '\n' ∉ word) :
    substituted (printField22 text) = String.ofList word ↔ ShowsWord22 word text := by
  have printed : printField22 text =
      ((records text).map field22).flatMap fun line => line ++ ['\n'] := by
    rw [List.flatMap_map]
    rfl
  have trimmed : substituted (printField22 text) =
      String.ofList ((printField22 text).rdropWhile (· == '\n')) := rfl
  have plain : ∀ line ∈ (records text).map field22, '\n' ∉ line := by
    intro line member
    obtain ⟨record, listed, rfl⟩ := List.mem_map.mp member
    exact newline_not_mem_field22 listed
  rw [trimmed, String.ofList_inj, printed, lines_eq_iff nonempty single plain]
  constructor
  · rintro ⟨rest, lines, blank⟩
    obtain ⟨first, others, read, here, rfl⟩ := List.map_eq_cons_iff.mp lines
    refine ⟨first, others, read, (field22_eq_iff nonempty first).mp here, ?_⟩
    intro record member
    exact (field22_eq_nil_iff record).mp (blank _ (List.mem_map_of_mem member))
  · rintro ⟨first, others, read, here, blank⟩
    refine ⟨others.map field22, ?_, ?_⟩
    · rw [read, List.map_cons, (field22_eq_iff nonempty first).mpr here]
    · intro line member
      obtain ⟨record, listed, rfl⟩ := List.mem_map.mp member
      exact (field22_eq_nil_iff record).mpr (blank record listed)

theorem ticksText_eq_iff {host : RemoteHost} {pid : Int} {process : Process} (ticks : Nat)
    (live : host.processes pid = some process) :
    host.ticksText pid = toString ticks ↔
      ShowsWord22 (toString ticks).toList (process.stat pid).toList := by
  have read : host.ticksText pid = substituted (printField22 (process.stat pid).toList) := by
    rw [RemoteHost.ticksText, live]
  rw [read, ← printField22_eq_iff (Decimal.nat_ne_nil ticks) (word_nat ticks).toList,
    String.ofList_toList]

theorem showsWord22_of_plainName {process : Process} (pid : Int) (ticks : Nat)
    (plain : process.PlainName) :
    ShowsWord22 (toString ticks).toList (process.stat pid).toList ↔ process.startTicks = ticks := by
  have single : '\n' ∉ process.comm.toList := fun member => (plain _ member).2 rfl
  have field := plainName_field22 pid plain
  constructor
  · rintro ⟨first, rest, read, word, -⟩
    rw [records_stat pid single] at read
    obtain ⟨rfl, -⟩ := List.cons.inj read
    rw [field] at word
    exact Decimal.toString_nat_injective (String.toList_inj.mp (Option.some.inj word))
  · rintro rfl
    exact ⟨_, _, records_stat pid single, field, List.forall_mem_nil _⟩

/-- The script exits 0 unless the word it reads is the ticks. -/
theorem sigtermVerify_status (host : Nat → RemoteHost) (pid : Int) (ticks : UInt64) :
    (eval (hostMachine host none) (sigtermVerify pid ticks) 0 .initial).status = 0 ↔
      (host 1).ticksText pid ≠ toString ticks.toNat := by
  have digits : toString ticks = toString ticks.toNat := rfl
  by_cases same : (host 1).ticksText pid = toString ticks.toNat <;>
    simp [sigtermVerify, eval_chain, execAll, hostMachine, runCommand, ShellState.initial,
      testStatus, Operand.value, digits, same]

theorem sigtermSteps_verify {sha256 : Bytes → Bytes} {pid : Int} {ticks : UInt64} {step : Step}
    (member : step ∈ sealSteps sha256 (sigtermSteps pid ticks)) (verify : step.phase = .verify) :
    step.command = sigtermVerify pid ticks := by
  obtain ⟨unsealed, listed, rfl⟩ := List.mem_map.mp member
  simp only [sigtermSteps, List.mem_cons, List.not_mem_nil, or_false] at listed
  rcases listed with rfl | rfl | rfl | rfl
  · cases verify
  · cases verify
  · cases verify
  · rfl

/-- The verify step tells whether the bound process is there when it reads the stat file
exactly if the process with the PID, if there is one, has a name of one word or its
file happens to show the ticks as 22nd word just when they are its own. A name of one word
implies the second; it stands there because it can be seen from the name alone. -/
theorem verify_recognises_iff (sha256 : Bytes → Bytes) (pid : Int) (ticks : UInt64) (plan : Plan)
    (step : Step) (host : Nat → RemoteHost)
    (built : build sha256 "process_sigterm_v1" 1 ⟨"", "", pid, ticks⟩ = .ok plan)
    (member : step ∈ plan.steps) (verify : step.phase = .verify) :
    ((eval (hostMachine host none) step.command 0 .initial).status = 0 ↔
        (host 1).startTicks pid ≠ some ticks.toNat) ↔
      ∀ process, (host 1).processes pid = some process →
        process.PlainName ∨
          (ShowsWord22 (toString ticks.toNat).toList (process.stat pid).toList ↔
            process.startTicks = ticks.toNat) := by
  rw [sigterm_plan sha256 pid ticks plan built] at member
  rw [sigtermSteps_verify member verify, sigtermVerify_status]
  cases live : (host 1).processes pid with
  | none =>
    have empty : (host 1).ticksText pid ≠ toString ticks.toNat := by
      rw [RemoteHost.ticksText, live]
      exact (word_nat ticks.toNat).1.symm
    have free : (host 1).startTicks pid ≠ some ticks.toNat := by
      rw [RemoteHost.startTicks, live]
      exact Option.some_ne_none _ ∘ Eq.symm
    refine iff_of_true (iff_of_true empty free) ?_
    rintro process ⟨⟩
  | some process =>
    have own : (host 1).startTicks pid = some ticks.toNat ↔ process.startTicks = ticks.toNat := by
      simp [RemoteHost.startTicks, live]
    rw [ne_eq, ne_eq, not_iff_not, ticksText_eq_iff ticks.toNat live, own]
    constructor
    · rintro agree _ same
      cases same
      exact .inr agree
    · intro condition
      rcases condition process rfl with plain | agree
      · exact showsWord22_of_plainName pid ticks.toNat plain
      · exact agree

def namedProcess (name : String) : Process := { plainProcess 100 with comm := name }

/-- A host on which PID 4242 is a process of this name with start ticks 100. -/
def hostNamed (name : String) : RemoteHost :=
  { hostWith 100 with
    processes := fun pid => if pid = 4242 then some (namedProcess name) else none }

/-- The process is alive with the bound ticks, and the verify step reports that it
exited. -/
theorem two_words_overlooked :
    ∃ step ∈ (sigterm4242 id).steps, step.phase = .verify ∧
      (hostNamed "Web Content").startTicks 4242 = some 100 ∧
      (eval (hostMachine (fun _ => hostNamed "Web Content") none) step.command 0 .initial).status =
        0 := by
  refine ⟨_, List.getLast_mem (List.cons_ne_nil _ _), rfl, rfl, ?_⟩
  exact (sigtermVerify_status _ 4242 100).mpr (by decide +kernel)

theorem one_word_recognised :
    ∃ step ∈ (sigterm4242 id).steps, step.phase = .verify ∧
      ((eval (hostMachine (fun _ => hostNamed "(sd-pam)") none) step.command 0 .initial).status =
          0 ↔
        (hostNamed "(sd-pam)").startTicks 4242 ≠ some 100) := by
  have listed : (sealSteps id (sigtermSteps 4242 100)).getLast (List.cons_ne_nil _ _) ∈
      (sigterm4242 id).steps := List.getLast_mem (List.cons_ne_nil _ _)
  refine ⟨_, listed, rfl, ?_⟩
  refine (verify_recognises_iff id 4242 100 (sigterm4242 id) _ (fun _ => hostNamed "(sd-pam)")
    (sigterm4242_built id) listed rfl).mpr ?_
  rintro process ⟨⟩
  exact .inl (by decide)

end VpsManager.Runbook
