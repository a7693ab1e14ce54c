import VpsManager.Go.Lines
import VpsManager.Lib.Firsts

namespace VpsManager.Snapshot

open Go

structure FilesystemUsage where
  mount : Bytes
  totalBytes : Nat
  usedBytes : Nat
  freeBytes : Nat
  deriving DecidableEq, Repr

structure Load where
  one : Float64
  five : Float64
  fifteen : Float64
  deriving DecidableEq, Repr

def Load.zero : Load := ⟨⟨0⟩, ⟨0⟩, ⟨0⟩⟩

/-- The texts are bytes: the remote host may print any. -/
structure RuntimeSnapshot where
  observedAt : Int
  hostname : Bytes
  kernel : Bytes
  uptimeSeconds : Nat
  load : Load
  memoryTotalBytes : Nat
  memoryAvailableBytes : Nat
  cpuModel : Bytes
  cpuLogicalCores : Nat
  filesystems : List FilesystemUsage
  fieldErrors : StringMap String

def RuntimeSnapshot.initial (observedAt : Int) : RuntimeSnapshot :=
  ⟨observedAt, [], [], 0, .zero, 0, 0, [], 0, [], ∅⟩

inductive Tag
  | hostname
  | kernel
  | uptime
  | load
  | memory
  | cpuModel
  | cpuLogical
  | filesystem
  deriving DecidableEq, Repr

namespace Tag

def all : List Tag :=
  [.hostname, .kernel, .uptime, .load, .memory, .cpuModel, .cpuLogical, .filesystem]

def text : Tag → String
  | .hostname => "hostname"
  | .kernel => "kernel"
  | .uptime => "uptime"
  | .load => "load"
  | .memory => "memory_kib"
  | .cpuModel => "cpu_model"
  | .cpuLogical => "cpu_logical"
  | .filesystem => "filesystem"

def name (tag : Tag) : Bytes := bytes tag.text

end Tag

/-- The name of the field in the errors. -/
def displayField : Tag → String
  | .uptime => "uptimeSeconds"
  | .memory => "memory"
  | .cpuModel => "cpuModel"
  | .cpuLogical => "cpuLogicalCores"
  | .filesystem => "filesystems"
  | tag => tag.text

def tagOf (name : Bytes) : Option Tag := Tag.all.find? fun tag => tag.name = name

def RuntimeSnapshot.fail (s : RuntimeSnapshot) (tag : Tag) (message : String) : RuntimeSnapshot :=
  { s with fieldErrors := s.fieldErrors.insert (displayField tag) message }

def boundedText (value : Bytes) (max : Nat) : Bytes :=
  let value := trimSpaceBytes value
  if max < value.length then value.take max else value

def isNegative (x : Float64) : Bool := 2 ^ 63 < x.bits.toNat

section Values

-- `strconv.ParseFloat(text, 64)`, `none` if it returns an error
variable (parseFloat : Bytes → Option Float64)

def loadAverage (text : Bytes) : Option Float64 :=
  (parseFloat text).filter fun value => !isNegative value && value.isFinite

def loadAverages (one five fifteen : Bytes) : Option Load := do
  return ⟨← loadAverage parseFloat one, ← loadAverage parseFloat five,
    ← loadAverage parseFloat fifteen⟩

/-- The total and the available memory in KiB, if their bytes can be counted. -/
def memoryKiB (total available : Bytes) : Option (Nat × Nat) := do
  let total ← parseUint 64 total
  let available ← parseUint 64 available
  if total < available ∨ (2 ^ 64 - 1) / 1024 < total then none else return (total, available)

def logicalCores (count : Bytes) : Option Nat :=
  (parseUint 32 count).filter fun value => value ≠ 0 ∧ value ≤ 65536

def filesystemUsage (mount total used free : Bytes) : Option FilesystemUsage := do
  let total ← parseUint 64 total
  let used ← parseUint 64 used
  let free ← parseUint 64 free
  if total < used ∨ total < free then none
  else return ⟨boundedText mount 1024, total, used, free⟩

/-- What the line of a tag makes of the snapshot, with the values after the tag. -/
def record (tag : Tag) (value : Bytes) (rest : List Bytes) (s : RuntimeSnapshot) :
    RuntimeSnapshot :=
  match tag with
  | .hostname => { s with hostname := boundedText value 255 }
  | .kernel => { s with kernel := boundedText value 512 }
  | .uptime =>
    match parseUint 64 value with
    | some seconds => { s with uptimeSeconds := seconds }
    | none => s.fail .uptime "unavailable"
  | .load =>
    match rest with
    | [five, fifteen] =>
      match loadAverages parseFloat value five fifteen with
      | some load => { s with load := load }
      | none => { s with load := .zero }.fail .load "unavailable"
    | _ => s.fail .load "unavailable"
  | .memory =>
    match rest with
    | [available] =>
      match memoryKiB value available with
      | some (total, available) =>
        { s with
          memoryTotalBytes := total * 1024
          memoryAvailableBytes := available * 1024 }
      | none => s.fail .memory "unavailable"
    | _ => s.fail .memory "unavailable"
  | .cpuModel => { s with cpuModel := boundedText value 512 }
  | .cpuLogical =>
    match logicalCores value with
    | some count => { s with cpuLogicalCores := count }
    | none => s.fail .cpuLogical "unavailable"
  | .filesystem =>
    match rest with
    | [total, used, free] =>
      if 256 ≤ s.filesystems.length then s.fail .filesystem "partial or unavailable"
      else match filesystemUsage value total used free with
        | some usage => { s with filesystems := s.filesystems ++ [usage] }
        | none => s.fail .filesystem "partial or unavailable"
    | _ => s.fail .filesystem "partial or unavailable"

def applyEntry (name : Bytes) (values : Bytes × List Bytes) (s : RuntimeSnapshot) :
    RuntimeSnapshot :=
  match tagOf name with
  | some tag => record parseFloat tag values.1 values.2 s
  | none => s

/-- The tag and the values of a line that has any. -/
def entryOf (line : Bytes) : Option (Bytes × Bytes × List Bytes) :=
  match line.splitOn tab with
  | name :: value :: rest => some (name, value, rest)
  | _ => none

/-- The loop over the lines, with the tags that were seen. -/
def parseLines (scanned : List Bytes) (observedAt : Int) : RuntimeSnapshot × List Bytes :=
  scanned.foldl (fun state line =>
    match entryOf line with
    | some entry => Firsts.take (applyEntry parseFloat) state entry
    | none => state) (.initial observedAt, [])

def noteTruncated (truncated : Bool) (s : RuntimeSnapshot) : RuntimeSnapshot :=
  if truncated then
    { s with fieldErrors := s.fieldErrors.insert "collectorOutput" "truncated or invalid" }
  else s

def reportUnseen (seen : List Bytes) (tags : List Tag) (s : RuntimeSnapshot) : RuntimeSnapshot :=
  tags.foldl (fun s tag => if tag.name ∈ seen then s else s.fail tag "unavailable") s

def parseLinuxSnapshot (output : Bytes) (observedAt : Int) : RuntimeSnapshot :=
  let scanned := scanLines (64 * 1024) output
  let state := parseLines parseFloat scanned.1 observedAt
  reportUnseen state.2 Tag.all (noteTruncated scanned.2 state.1)

end Values

inductive Field
  | text (value : Bytes)
  | number (value : Nat)
  | load (value : Load)
  | memory (total available : Nat)
  | filesystems (value : List FilesystemUsage)
  deriving DecidableEq, Repr

def Tag.field (tag : Tag) (s : RuntimeSnapshot) : Field :=
  match tag with
  | .hostname => .text s.hostname
  | .kernel => .text s.kernel
  | .uptime => .number s.uptimeSeconds
  | .load => .load s.load
  | .memory => .memory s.memoryTotalBytes s.memoryAvailableBytes
  | .cpuModel => .text s.cpuModel
  | .cpuLogical => .number s.cpuLogicalCores
  | .filesystem => .filesystems s.filesystems

/-- The fields of the tag and the error recorded for them. -/
def Tag.view (tag : Tag) (s : RuntimeSnapshot) : Field × Option String :=
  (tag.field s, s.fieldErrors.lookup (displayField tag))

section Views

variable {parseFloat : Bytes → Option Float64} {tag other : Tag} {s : RuntimeSnapshot}

theorem displayField_injective (same : displayField tag = displayField other) : tag = other := by
  revert same
  cases tag <;> cases other <;> decide

theorem name_injective (same : tag.name = other.name) : tag = other := by
  have texts := bytes_injective same
  revert texts
  cases tag <;> cases other <;> decide

theorem mem_all (tag : Tag) : tag ∈ Tag.all := by
  cases tag <;> decide

theorem tagOf_name (tag : Tag) : tagOf tag.name = some tag := by
  cases found : tagOf tag.name with
  | none =>
    have missing := List.find?_eq_none.mp found tag (mem_all tag)
    simp at missing
  | some other =>
    have same := List.find?_some found
    rw [decide_eq_true_eq] at same
    rw [name_injective same]

theorem name_of_tagOf {name : Bytes} (found : tagOf name = some tag) : tag.name = name := by
  have same := List.find?_some found
  rwa [decide_eq_true_eq] at same

theorem field_fail (message : String) : tag.field (s.fail other message) = tag.field s := by
  cases tag <;> rfl

theorem view_fail_self (message : String) :
    tag.view (s.fail tag message) = (tag.field s, some message) := by
  rw [Tag.view, field_fail]
  exact congrArg _ (Finmap.lookup_insert _)

theorem view_fail_of_ne (different : tag ≠ other) (message : String) :
    tag.view (s.fail other message) = tag.view s := by
  rw [Tag.view, field_fail, Tag.view]
  refine congrArg _ (Finmap.lookup_insert_of_ne _ ?_)
  exact fun same => different (displayField_injective same)

theorem view_record_of_ne (different : tag ≠ other) (value : Bytes) (rest : List Bytes) :
    tag.view (record parseFloat other value rest s) = tag.view s := by
  have fails := fun message => view_fail_of_ne (s := s) different message
  cases other with
  | hostname | kernel | cpuModel => cases tag <;> first | rfl | contradiction
  | uptime | cpuLogical =>
    simp only [record]
    split
    · cases tag <;> first | rfl | contradiction
    · exact fails _
  | load =>
    simp only [record]
    split
    · split
      · cases tag <;> first | rfl | contradiction
      · rw [view_fail_of_ne different]
        cases tag <;> first | rfl | contradiction
    · exact fails _
  | memory =>
    simp only [record]
    split
    · split
      · cases tag <;> first | rfl | contradiction
      · exact fails _
    · exact fails _
  | filesystem =>
    simp only [record]
    split
    · split
      · exact fails _
      · split
        · cases tag <;> first | rfl | contradiction
        · exact fails _
    · exact fails _

theorem view_applyEntry_of_ne (tag : Tag) (name : Bytes) (values : Bytes × List Bytes)
    (s : RuntimeSnapshot) (different : name ≠ tag.name) :
    tag.view (applyEntry parseFloat name values s) = tag.view s := by
  unfold applyEntry
  split
  · rename_i other found
    apply view_record_of_ne
    rintro rfl
    exact different (name_of_tagOf found).symm
  · rfl

theorem view_noteTruncated (truncated : Bool) (s : RuntimeSnapshot) :
    tag.view (noteTruncated truncated s) = tag.view s := by
  unfold noteTruncated
  split
  · have other : displayField tag ≠ "collectorOutput" := by cases tag <;> decide
    rw [Tag.view, Tag.view]
    dsimp only
    rw [Finmap.lookup_insert_of_ne _ other]
    cases tag <;> rfl
  · rfl

theorem view_reportUnseen (seen : List Bytes) (tags : List Tag) (s : RuntimeSnapshot) :
    tag.view (reportUnseen seen tags s) =
      if tag ∈ tags ∧ tag.name ∉ seen then (tag.field s, some "unavailable") else tag.view s := by
  induction tags generalizing s with
  | nil => simp [reportUnseen]
  | cons first rest ih =>
    have goes := ih (if first.name ∈ seen then s else s.fail first "unavailable")
    rw [reportUnseen, List.foldl_cons, ← reportUnseen, goes]
    by_cases found : first.name ∈ seen
    · rw [if_pos found]
      by_cases same : tag = first
      · subst same
        simp [found]
      · simp [same]
    · rw [if_neg found]
      by_cases same : tag = first
      · subst same
        simp [found, field_fail, view_fail_self]
      · rw [field_fail, view_fail_of_ne same]
        simp [same]

end Views

variable {before after : List (Bytes × Bytes × List Bytes)}

section Parsing

variable {parseFloat : Bytes → Option Float64} {tag : Tag}

def entries (scanned : List Bytes) : List (Bytes × Bytes × List Bytes) :=
  scanned.filterMap entryOf

theorem parseLines_eq (scanned : List Bytes) (observedAt : Int) :
    parseLines parseFloat scanned observedAt =
      (entries scanned).foldl (Firsts.take (applyEntry parseFloat)) (.initial observedAt, []) := by
  rw [parseLines, entries, List.foldl_filterMap]
  congr 1
  funext state line
  cases entryOf line <;> rfl

theorem mem_seen (scanned : List Bytes) (observedAt : Int) :
    tag.name ∈ (parseLines parseFloat scanned observedAt).2 ↔
      tag.name ∈ (entries scanned).map Prod.fst := by
  rw [parseLines_eq, Firsts.mem_seen]
  simp

theorem view_parse (output : Bytes) (observedAt : Int) :
    tag.view (parseLinuxSnapshot parseFloat output observedAt) =
      if tag.name ∈ (entries (scanLines (64 * 1024) output).1).map Prod.fst then
        tag.view (parseLines parseFloat (scanLines (64 * 1024) output).1 observedAt).1
      else
        (tag.field (parseLines parseFloat (scanLines (64 * 1024) output).1 observedAt).1,
          some "unavailable") := by
  have seen := @mem_seen parseFloat tag (scanLines (64 * 1024) output).1 observedAt
  have noted := @view_noteTruncated tag (scanLines (64 * 1024) output).2
    (parseLines parseFloat (scanLines (64 * 1024) output).1 observedAt).1
  rw [parseLinuxSnapshot, view_reportUnseen]
  by_cases found : tag.name ∈ (entries (scanLines (64 * 1024) output).1).map Prod.fst
  · rw [if_neg (fun report => report.2 (seen.mpr found)), if_pos found]
    exact noted
  · rw [if_pos ⟨mem_all tag, fun inside => found (seen.mp inside)⟩, if_neg found]
    exact congrArg (·, some "unavailable") (congrArg Prod.fst noted)

variable {output : Bytes}

theorem view_of_absent (parseFloat : Bytes → Option Float64) (observedAt : Int)
    (absent : tag.name ∉ (entries (scanLines (64 * 1024) output).1).map Prod.fst) :
    tag.view (parseLinuxSnapshot parseFloat output observedAt) =
      (tag.field (.initial observedAt), some "unavailable") := by
  have kept := Firsts.view_absent (@view_applyEntry_of_ne parseFloat tag) _
    (RuntimeSnapshot.initial observedAt, []) absent
  rw [view_parse, if_neg absent, parseLines_eq]
  exact congrArg (·, some "unavailable") (congrArg Prod.fst kept)

theorem view_of_first (parseFloat : Bytes → Option Float64) (observedAt : Int) {value : Bytes}
    {rest : List Bytes}
    (split : entries (scanLines (64 * 1024) output).1 = before ++ (tag.name, value, rest) :: after)
    (first : tag.name ∉ before.map Prod.fst) :
    ∃ between, tag.view between = tag.view (.initial observedAt) ∧
      tag.view (parseLinuxSnapshot parseFloat output observedAt) =
        tag.view (record parseFloat tag value rest between) := by
  obtain ⟨between, unchanged, recorded⟩ :
      ∃ between, tag.view between = tag.view (.initial observedAt) ∧
        tag.view ((before ++ (tag.name, value, rest) :: after).foldl
          (Firsts.take (applyEntry parseFloat)) (.initial observedAt, [])).1 =
          tag.view (applyEntry parseFloat tag.name (value, rest) between) :=
    Firsts.view_first (@view_applyEntry_of_ne parseFloat tag) (.initial observedAt, [])
      List.not_mem_nil first
  refine ⟨between, unchanged, ?_⟩
  have present : tag.name ∈ (entries (scanLines (64 * 1024) output).1).map Prod.fst := by
    rw [split]
    simp
  rw [view_parse, if_pos present, parseLines_eq, split, recorded, applyEntry, tagOf_name]

end Parsing

def isFilesystem (line : Bytes) : Bool :=
  ((dropCR line).splitOn tab).head? = some Tag.filesystem.name

def filesystemLines (output : Bytes) : List (List Bytes) :=
  ((lines output).filter isFilesystem).map fun line => (dropCR line).splitOn tab

/-- What a line of five fields says of a filesystem. -/
def usageOf : List Bytes → Option FilesystemUsage
  | [_, mount, total, used, free] => filesystemUsage mount total used free
  | _ => none

structure WellFormed (output : Bytes) : Prop where
  usages : ∀ fields ∈ filesystemLines output, (usageOf fields).isSome = true
  few : (filesystemLines output).length ≤ 256

/-- The snapshot has the filesystems of the output and no error for them. -/
structure KeepsFilesystems (output : Bytes) (s : RuntimeSnapshot) : Prop where
  kept : s.filesystems.map some = (filesystemLines output).map usageOf
  accepted : s.fieldErrors.lookup (displayField .filesystem) = none

/-- There is one filesystem, and every line up to it fits into the scanner's buffer. -/
def OneFilesystem (output : Bytes) : Prop :=
  ∃ before line after, lines output = before ++ line :: after ∧ isFilesystem line = true ∧
    (∀ other ∈ before ++ after, isFilesystem other = false) ∧
    ∀ scanned ∈ before ++ [line], scanned.length < 64 * 1024

section Filesystems

variable {parseFloat : Bytes → Option Float64} {output : Bytes} {line : Bytes}
  {scanned : List Bytes}

theorem entryOf_filesystem {fields : List Bytes} (cut : (dropCR line).splitOn tab = fields)
    (tagged : isFilesystem line = true) (usage : (usageOf fields).isSome = true) :
    ∃ mount total used free, fields = [Tag.filesystem.name, mount, total, used, free] ∧
      entryOf (dropCR line) = some (Tag.filesystem.name, mount, [total, used, free]) := by
  rw [isFilesystem, cut, decide_eq_true_eq] at tagged
  unfold usageOf at usage
  split at usage
  · rename_i name mount total used free
    obtain rfl := Option.some.inj tagged
    exact ⟨mount, total, used, free, rfl, by rw [entryOf, cut]⟩
  · cases usage

theorem mem_entries (inside : Tag.filesystem.name ∈ (entries (scanned.map dropCR)).map Prod.fst) :
    ∃ line ∈ scanned, isFilesystem line = true := by
  obtain ⟨⟨name, value, rest⟩, found, rfl⟩ := List.mem_map.mp inside
  obtain ⟨cut, printed, entry⟩ := List.mem_filterMap.mp found
  obtain ⟨line, member, rfl⟩ := List.mem_map.mp printed
  refine ⟨line, member, ?_⟩
  unfold entryOf at entry
  split at entry
  · rename_i parts
    cases entry
    rw [isFilesystem, parts]
    exact decide_eq_true rfl
  · cases entry

theorem filesystems_of_first (observedAt : Int) {mount total used free : Bytes}
    {usage : FilesystemUsage} (reads : filesystemUsage mount total used free = some usage)
    (split : entries (scanLines (64 * 1024) output).1 =
      before ++ (Tag.filesystem.name, mount, [total, used, free]) :: after)
    (first : Tag.filesystem.name ∉ before.map Prod.fst) :
    (parseLinuxSnapshot parseFloat output observedAt).filesystems = [usage] ∧
      (parseLinuxSnapshot parseFloat output observedAt).fieldErrors.lookup
        (displayField .filesystem) = none := by
  obtain ⟨between, unchanged, recorded⟩ := view_of_first parseFloat observedAt
    split first
  obtain ⟨fields, errors⟩ := Prod.mk.inj unchanged
  have none : between.filesystems = [] := Field.filesystems.inj fields
  have taken : record parseFloat .filesystem mount [total, used, free] between =
      { between with filesystems := [usage] } := by
    simp only [record, none, reads, List.nil_append]
    rfl
  rw [taken] at recorded
  obtain ⟨fields, noErrors⟩ := Prod.mk.inj recorded
  exact ⟨Field.filesystems.inj fields, noErrors.trans errors⟩

theorem not_mem_entries (others : ∀ line ∈ scanned, isFilesystem line = false) :
    Tag.filesystem.name ∉ (entries (scanned.map dropCR)).map Prod.fst := by
  intro inside
  obtain ⟨line, member, tagged⟩ := mem_entries inside
  rw [others line member] at tagged
  cases tagged

theorem filesystems_of_scanned (parseFloat : Bytes → Option Float64)
    (wellFormed : WellFormed output) (observedAt : Int) {before after : List Bytes}
    (split : lines output = before ++ line :: after) (tagged : isFilesystem line = true)
    (first : ∀ other ∈ before, isFilesystem other = false)
    (fits : ∀ scanned ∈ before ++ [line], scanned.length < 64 * 1024) :
    ∃ usage, usageOf ((dropCR line).splitOn tab) = some usage ∧
      (parseLinuxSnapshot parseFloat output observedAt).filesystems = [usage] ∧
      (parseLinuxSnapshot parseFloat output observedAt).fieldErrors.lookup
        (displayField .filesystem) = none := by
  have listed : (dropCR line).splitOn tab ∈ filesystemLines output := by
    rw [filesystemLines, split]
    exact List.mem_map.mpr ⟨line, by simp [tagged], rfl⟩
  have reads := wellFormed.usages _ listed
  obtain ⟨mount, total, used, free, fields, entry⟩ := entryOf_filesystem rfl tagged reads
  obtain ⟨usage, found⟩ := Option.isSome_iff_exists.mp reads
  have scanned : (scanLines (64 * 1024) output).1 = before.map dropCR ++ dropCR line ::
      (after.takeWhile fun line => line.length < 64 * 1024).map dropCR := by
    have short : ∀ scanned ∈ before ++ [line], decide (scanned.length < 64 * 1024) = true :=
      fun scanned inside => decide_eq_true (fits scanned inside)
    rw [scanLines, split, ← List.singleton_append, ← List.append_assoc,
      List.takeWhile_append_of_pos short]
    simp
  have cut : entries (scanLines (64 * 1024) output).1 = entries (before.map dropCR) ++
      (Tag.filesystem.name, mount, [total, used, free]) ::
        entries ((after.takeWhile fun line => line.length < 64 * 1024).map dropCR) := by
    rw [scanned, entries, List.filterMap_append, List.filterMap_cons, entry]
    rfl
  refine ⟨usage, found, filesystems_of_first observedAt ?_ cut (not_mem_entries first)⟩
  rw [fields] at found
  exact found

theorem first_scanned
    (present : Tag.filesystem.name ∈ (entries (scanLines (64 * 1024) output).1).map Prod.fst) :
    ∃ before line after, lines output = before ++ line :: after ∧ isFilesystem line = true ∧
      (∀ other ∈ before, isFilesystem other = false) ∧
      ∀ scanned ∈ before ++ [line], scanned.length < 64 * 1024 := by
  obtain ⟨_, member, isTagged⟩ := mem_entries present
  obtain ⟨line, before, rest, others, tagged, split, -⟩ := List.exists_of_eraseP member isTagged
  obtain ⟨unscanned, whole⟩ := List.takeWhile_prefix (l := lines output)
    fun line => decide (line.length < 64 * 1024)
  refine ⟨before, line, rest ++ unscanned, ?_, tagged, ?_, ?_⟩
  · rw [← whole, split, List.append_assoc, List.cons_append]
  · exact fun other inside => Bool.eq_false_iff.mpr (others other inside)
  · intro scanned inside
    have short : scanned ∈ (lines output).takeWhile fun line => line.length < 64 * 1024 := by
      rw [split, ← List.singleton_append, ← List.append_assoc]
      exact List.mem_append_left _ inside
    have fits := List.mem_takeWhile_imp short
    exact of_decide_eq_true fits

theorem filesystemLines_split {before after : List Bytes}
    (split : lines output = before ++ line :: after) (tagged : isFilesystem line = true)
    (first : ∀ other ∈ before, isFilesystem other = false) :
    filesystemLines output = (dropCR line).splitOn tab ::
      (after.filter isFilesystem).map fun line => (dropCR line).splitOn tab := by
  have none : before.filter isFilesystem = [] :=
    List.filter_eq_nil_iff.mpr fun other inside => by simp [first other inside]
  rw [filesystemLines, split, List.filter_append, none, List.nil_append,
    List.filter_cons_of_pos tagged, List.map_cons]

end Filesystems

/-- The parser keeps every filesystem exactly if there is one. -/
theorem filesystems_kept (parseFloat : Bytes → Option Float64) (output : Bytes) (observedAt : Int)
    (wellFormed : WellFormed output) :
    KeepsFilesystems output (parseLinuxSnapshot parseFloat output observedAt) ↔
      OneFilesystem output := by
  constructor
  · rintro ⟨kept, accepted⟩
    by_cases present : Tag.filesystem.name ∈
        (entries (scanLines (64 * 1024) output).1).map Prod.fst
    · obtain ⟨before, line, after, split, tagged, first, fits⟩ := first_scanned present
      obtain ⟨usage, -, only, -⟩ :=
        filesystems_of_scanned parseFloat wellFormed observedAt split tagged first
          fits
      -- the snapshot has one filesystem, so that no later line has the tag
      have count := congrArg List.length kept
      rw [only, filesystemLines_split split tagged first] at count
      have none : after.filter isFilesystem = [] := by
        simpa using count
      refine ⟨before, line, after, split, tagged, ?_, fits⟩
      intro other inside
      rcases List.mem_append.mp inside with earlier | later
      · exact first other earlier
      · exact Bool.eq_false_iff.mpr (List.filter_eq_nil_iff.mp none other later)
    · have reported := view_of_absent parseFloat observedAt present
      rw [(Prod.mk.inj reported).2] at accepted
      cases accepted
  · rintro ⟨before, line, after, split, tagged, others, fits⟩
    have first : ∀ other ∈ before, isFilesystem other = false :=
      fun other inside => others other (List.mem_append_left _ inside)
    obtain ⟨usage, reads, only, accepted⟩ :=
      filesystems_of_scanned parseFloat wellFormed observedAt split tagged first
        fits
    have none : after.filter isFilesystem = [] := by
      apply List.filter_eq_nil_iff.mpr
      intro other inside
      rw [others other (List.mem_append_right _ inside)]
      exact Bool.false_ne_true
    refine ⟨?_, accepted⟩
    rw [only, filesystemLines_split split tagged first, none]
    exact congrArg (fun usage => [usage]) reads.symm

def twoFilesystems : Bytes :=
  bytes "filesystem\t/\t100\t60\t40\nfilesystem\t/boot\t10\t5\t5\n"

theorem second_filesystem_lost :
    ¬ ∀ (parseFloat : Bytes → Option Float64) (output : Bytes) (observedAt : Int),
        WellFormed output →
        KeepsFilesystems output (parseLinuxSnapshot parseFloat output observedAt) := by
  intro always
  have cut : (filesystemLines twoFilesystems).map usageOf =
      [some ⟨bytes "/", 100, 60, 40⟩, some ⟨bytes "/boot", 10, 5, 5⟩] := by decide +kernel
  have read : (parseLinuxSnapshot (fun _ => none) twoFilesystems 0).filesystems =
      [⟨bytes "/", 100, 60, 40⟩] := by decide +kernel
  have wellFormed : WellFormed twoFilesystems := by
    constructor <;> decide +kernel
  have kept := (always (fun _ => none) twoFilesystems 0 wellFormed).kept
  rw [read, cut] at kept
  cases kept

def oneFilesystem : Bytes :=
  bytes "hostname\tvps-1\nfilesystem\t/\t100\t60\t40\nkernel\tLinux 6.1\n"

theorem one_filesystem_kept :
    WellFormed oneFilesystem ∧
      KeepsFilesystems oneFilesystem (parseLinuxSnapshot (fun _ => none) oneFilesystem 0) := by
  have wellFormed : WellFormed oneFilesystem := by
    constructor <;> decide +kernel
  have cut : lines oneFilesystem = [bytes "hostname\tvps-1"] ++
      bytes "filesystem\t/\t100\t60\t40" :: [bytes "kernel\tLinux 6.1"] := by decide +kernel
  refine ⟨wellFormed, (filesystems_kept (fun _ => none) oneFilesystem 0 wellFormed).mpr
    ⟨_, _, _, cut, ?_⟩⟩
  decide +kernel

end VpsManager.Snapshot
