import MailSearch.Command.Program
import MailSearch.Proofs.Query.Limiting
import MailSearch.Proofs.Store.EntryOrder
import MailSearch.Proofs.Store.Loading

/-!
# Queries from the command line

On the files of a folder the program answers a request from a snapshot as the
library does: for the principal that the arguments name, or else the request, or
else for the owner, under the settings of the configuration, and with the limit
of the arguments in the place of the limit of the request.  What it does before,
reading the configuration and beginning the log, changes nothing in the files
that it reads then.  A limit of the arguments is not put into a request that is
written as a list.
-/

namespace MailSearch
namespace Command

open Storage
open Storage.Folder (Keeps Looks OnlyReads access)

/-! ## What the library answers -/

/-- The answer of the library to a request, asked for by the principal that
counts. -/
def libraryAnswer (settings : Query.Settings) (account : Store.Account)
    (principal : Option String)
    (value : Json) : Except Query.Error (Attempt Query.Answer) :=
  let engine := account.engine settings
  match engine.decode value with
  | .error cause => .error cause
  | .ok request =>
      engine.query ((principal.or request.accountId).getD account.owner) value

/-- The request with the limit of the arguments, if there is one, in the place
of its own. -/
def overridden (limit : Option Nat) (value : Json) : Json :=
  (limit.map fun limit => Query.relimited limit value).getD value

/-- An outcome reports an answer, or else why there is none. -/
inductive Reports :
    Except Query.Error (Attempt Query.Answer) -> Outcome -> Prop where
  /-- The answer is printed, and nothing else. -/
  | answer (answer : Query.Answer) :
      Reports (.ok (some answer)) ⟨0,
        Json.indented 0 answer.toJson ++ ['\n'], []⟩
  /-- The error is told by its kind and its message, and nothing is printed. -/
  | error (cause : Query.Error) {code : Nat} (failed : code ≠ 0) :
      Reports (.error cause)
        ⟨code, [],
          ("Error: " ++ (cause.kind.name ++ ": " ++ cause.message) ++
            "\n").toList⟩

section Library

variable (settings : Query.Settings) (account : Store.Account)
  (principal : Option String)

theorem answer_eq_libraryAnswer
    (value : Json) :
    answer settings account principal value =
      libraryAnswer settings account principal value := by
  unfold answer libraryAnswer Query.Engine.query
  dsimp only
  cases (account.engine settings).decode value <;> rfl

/-- The library does not look at the order of keys. -/
theorem libraryAnswer_congr
    {value other : Json}
    (same : value.sortKeys = other.sortKeys) :
    libraryAnswer settings account principal value =
      libraryAnswer settings account principal other := by
  have decoded : (account.engine settings).decode value =
      (account.engine settings).decode other := by
    unfold Query.Engine.decode
    rw [← Query.Request.ofJson_sortKeys, same, Query.Request.ofJson_sortKeys]
  unfold libraryAnswer Query.Engine.query
  dsimp only
  rw [decoded]

/-- From messages that can be shown the library makes an answer, or fails. -/
theorem exists_answer_of_libraryAnswer
    (readable : (account.engine settings).IsReadable)
    {value : Json}
    {reply : Attempt Query.Answer}
    (replied : libraryAnswer settings account principal value = .ok reply) :
    ∃ answer, reply = some answer := by
  unfold libraryAnswer at replied
  dsimp only at replied
  split at replied
  · cases replied
  · obtain ⟨request, -, executed⟩ := Outcome.exists_of_bind_eq_ok replied
    exact Query.Engine.exists_answer_of_readable readable executed

end Library

section Limits

variable {limit : Option Nat} {value : Json}

theorem sortKeys_withLimit
    (takes : limit = none ∨ ∀ items, value ≠ .arr items) :
    (withLimit limit value.sortKeys).sortKeys =
      (overridden limit value).sortKeys := by
  cases limit with
  | none => exact Json.sortKeys_sortKeys value
  | some limit =>
      have noList := takes.resolve_left nofun
      cases value with
      | arr items => exact absurd rfl (noList items)
      | obj members =>
          have replaced : withLimit (some limit) (Json.obj members).sortKeys =
              (overridden (some limit) (.obj members)).sortKeys :=
            congrArg Json.obj
              (Json.sortMembers_replaced "limit" (.nat limit) members).symm
          rw [replaced, Json.sortKeys_sortKeys]
      | _ => rfl

/-- A list is left as it is. -/
theorem sortKeys_withLimit_arr
    (items : List Json) :
    (withLimit limit (Json.arr items).sortKeys).sortKeys =
      (Json.arr items).sortKeys := by
  have unchanged : withLimit limit (Json.arr items).sortKeys =
      (Json.arr items).sortKeys := by
    cases limit <;> rfl
  rw [unchanged, Json.sortKeys_sortKeys]

end Limits

/-! ## Programs on a folder -/

/-- The surroundings of a program that runs on the files of a folder. -/
def onFolder (input : List UInt8)
    (configurationFile logDirectory : Option String) :
    Surroundings (StateM Folder) :=
  ⟨access, pure input, configurationFile, logDirectory⟩

section Folders

variable {input : List UInt8} {configurationFile logDirectory : Option String}

theorem onlyReads_openAccount
    (path : String) :
    OnlyReads (openAccount (onFolder input configurationFile logDirectory)
      path) := by
  apply (Folder.looks_leadsSomewhere path).onlyReads
  · intro leads nowhere folder result
    rw [Bool.not_eq_true] at nowhere
    subst nowhere
    exact nofun
  · rintro leads rfl
    change OnlyReads (liftM (Store.loadAccount access path).run >>= _)
    refine (Store.onlyReads_loadAccount path).looks.onlyReads_ok ?_
      Folder.onlyReads_pure
    rintro (cause | _) folder result <;> exact nofun

theorem onlyReads_readSource
    (path : String) :
    OnlyReads (readSource (onFolder input configurationFile logDirectory)
      path) := by
  unfold readSource
  split
  · have given : Looks (pure input : StateM Folder (List UInt8))
        fun _ => True :=
      fun _ _ _ _ => rfl
    apply given.onlyReads
    · exact fun _ absent => absurd trivial absent
    · intro bytes _
      split
      · exact Folder.onlyReads_pure _
      · exact Folder.onlyReads_throw _
  · exact (Folder.looks_readText path).onlyReads_ok
      (fun _ _ _ => nofun) Folder.onlyReads_pure

theorem run_openAccount
    {folder : Folder}
    {path : String}
    {account : Store.Account}
    (loads : ((Store.loadAccount access path).run folder).1 = .ok account) :
    (openAccount (onFolder input configurationFile logDirectory)
        path).run folder =
      (.ok account, folder) := by
  have leads : access.leadsSomewhere path folder = (true, folder) :=
    congrArg (·, folder) (Store.leadsSomewhere_of_loadAccount loads)
  have ran : (Store.loadAccount access path).run folder =
      (.ok account, folder) :=
    Store.onlyReads_loadAccount path (.refl folder) loads
  unfold openAccount onFolder
  rw [run_lift_bind, leads, if_neg (show ¬ (!true) = true by decide),
    run_lift_bind, ran]
  rfl

theorem load_snd
    (path : String)
    (folder : Folder) :
    (Configuration.load access path folder).2 = folder := by
  simp only [Configuration.load, bind, StateT.bind, Folder.access_readText]
  generalize (folder.read path).bind _ = outcome
  cases outcome <;> rfl

/-- The configuration is read, and nothing is changed. -/
theorem configurationOf_snd
    (invocation : Invocation)
    (folder : Folder) :
    (configurationOf (onFolder input configurationFile logDirectory) invocation
        folder).2 =
      folder := by
  unfold configurationOf
  cases invocation.configuration with
  | some path => exact load_snd path folder
  | none =>
      cases configurationFile with
      | none => rfl
      | some path =>
          change ((if folder.leadsSomewhere path then Configuration.load
              access path
            else (pure .standard : StateM Folder Configuration)) folder).2 =
              folder
          split
          · exact load_snd path folder
          · rfl

/-- What the log needs is only added. -/
theorem keeps_beginLog
    (configuration : Configuration)
    (folder : Folder) :
    Keeps folder
      (beginLog (onFolder input configurationFile logDirectory) configuration
        folder).2 := by
  unfold beginLog onFolder
  dsimp only
  cases configuration.cacheDir.or logDirectory with
  | none => exact .refl folder
  | some directory =>
      have made := Folder.keeps_makeDirectories directory folder
      simp only [bind, StateT.bind]
      generalize access.makeDirectories directory folder = ended at made ⊢
      obtain ⟨outcome, after⟩ := ended
      cases outcome with
      | error cause => exact made
      | ok _ =>
          have logged :=
            Folder.keeps_create (Configuration.logFile directory) after
          simp only [StateT.bind]
          generalize access.create (Configuration.logFile directory) after =
            created at logged ⊢
          exact made.trans logged

/-- The task of an invocation is performed behind the log, in a folder that
keeps all files. -/
theorem exists_run_eq
    {arguments : List String}
    {invocation : Invocation}
    (parsed : Invocation.ofArguments arguments = .ok invocation)
    (folder : Folder) :
    ∃ after, Keeps folder after ∧
      (run (onFolder input configurationFile logDirectory) arguments folder).1 =
        match ((perform (onFolder input configurationFile logDirectory)
          (configurationOf (onFolder input configurationFile logDirectory)
            invocation folder).1
          invocation.task).run after).1 with
        | .ok text => .printed text
        | .error (.failed failure) => .failed failure
        | .error .brokenDown => .brokenDown := by
  obtain ⟨configuration, configured⟩ : ∃ configuration,
      configurationOf (onFolder input configurationFile logDirectory)
          invocation folder =
        (configuration, folder) :=
    ⟨_, Prod.ext rfl (configurationOf_snd invocation folder)⟩
  have keeps :=
    @keeps_beginLog input configurationFile logDirectory configuration folder
  refine ⟨_, keeps, ?_⟩
  unfold run
  rw [parsed, configured]
  simp only [bind, StateT.bind, configured]
  generalize beginLog (onFolder input configurationFile logDirectory)
    configuration folder = began
  obtain ⟨_, after⟩ := began
  dsimp only
  generalize (perform (onFolder input configurationFile logDirectory)
      configuration
    invocation.task).run after = ended
  obtain ⟨(_ | _) | _, _⟩ := ended <;> rfl

theorem run_readValue
    {folder : Folder}
    {path : String}
    {text : List Char}
    {value : Json}
    (reads : (readSource (onFolder input configurationFile logDirectory)
        path).run folder =
      (.ok text, folder))
    (document : Json.read? text = some value) :
    (readValue (onFolder input configurationFile logDirectory)
        path).run folder =
      (.ok value.sortKeys, folder) := by
  rw [readValue, run_bind, reads]
  dsimp only
  rw [document]
  rfl

theorem run_runQuery
    {folder : Folder}
    {snapshot request : String}
    {account : Store.Account}
    {value : Json}
    (opens : (openAccount (onFolder input configurationFile logDirectory)
        snapshot).run folder =
      (.ok account, folder))
    (reads : (readValue (onFolder input configurationFile logDirectory)
        request).run folder =
      (.ok value, folder))
    (settings : Query.Settings)
    (principal : Option String)
    (limit : Option Nat) :
    ((runQuery (onFolder input configurationFile logDirectory) settings snapshot
        request principal
      limit true).run folder).1 =
        match libraryAnswer settings account principal
          (withLimit limit value) with
        | .error cause => .error (.failed (.noAnswer cause))
        | .ok none => .error .brokenDown
        | .ok (some answer) => .ok (printJson answer.toJson) := by
  rw [runQuery, run_bind, opens]
  dsimp only
  rw [run_bind, reads]
  dsimp only
  rw [answer_eq_libraryAnswer]
  rcases libraryAnswer settings account principal (withLimit limit value) with
    _ | _ | _ <;> rfl

/-- The program reports what the library answers to the request that it makes of
the file. -/
theorem reports_run
    {folder : Folder}
    {arguments : List String}
    {snapshot request : String}
    {principal : Option String}
    {limit : Option Nat}
    {configuration : Option String}
    {verbosity : Nat}
    (parsed : Invocation.ofArguments arguments =
      .ok ⟨.query snapshot request principal limit true, configuration,
        verbosity⟩)
    {account : Store.Account}
    (loads : ((Store.loadAccount access snapshot).run folder).1 = .ok account)
    {text : List Char}
    (reads :
      ((readSource (onFolder input configurationFile logDirectory)
        request).run folder).1 = .ok text)
    {value asked : Json}
    (document : Json.read? text = some value)
    (same : (withLimit limit value.sortKeys).sortKeys = asked.sortKeys) :
    Reports
      (libraryAnswer
        (configurationOf (onFolder input configurationFile logDirectory)
          ⟨.query snapshot request principal limit true, configuration,
            verbosity⟩ folder).1.query
        account principal asked)
      (run (onFolder input configurationFile logDirectory) arguments
        folder).1 := by
  obtain ⟨after, keeps, ended⟩ :=
    @exists_run_eq input configurationFile logDirectory _ _ parsed folder
  have opens := onlyReads_openAccount snapshot keeps (congrArg Prod.fst
    (@run_openAccount input configurationFile logDirectory _ _ _ loads))
  have readsAfter := onlyReads_readSource request keeps reads
  rw [ended, ← libraryAnswer_congr _ _ _ same, perform,
    run_runQuery opens (run_readValue readsAfter document)]
  cases replied : libraryAnswer _ account principal
      (withLimit limit value.sortKeys) with
  | error cause => exact .error cause Nat.one_ne_zero
  | ok reply =>
      have readable := Store.SnapshotFile.isReadable_of_load
        (show (Store.SnapshotFile.inFolder folder snapshot).load = .ok account
          from loads)
      obtain ⟨answer, rfl⟩ :=
        exists_answer_of_libraryAnswer _ account principal (readable _) replied
      exact .answer answer

end Folders

/-! ## What a query reports -/

/--
A query for JSON on the files of a folder: the arguments and what they say, the
account that the snapshot describes, and the request that is written in its
file.
-/
structure Inquiry where
  /-- The folder in which the program starts. -/
  folder : Folder
  /-- The standard input. -/
  input : List UInt8
  /-- The usual file of the configuration. -/
  configurationFile : Option String
  /-- The usual directory of the log. -/
  logDirectory : Option String
  /-- The arguments. -/
  arguments : List String
  /-- The path of the snapshot. -/
  snapshot : String
  /-- The path of the request. -/
  request : String
  /-- The principal that the arguments name. -/
  principal : Option String
  /-- The limit that the arguments name. -/
  limit : Option Nat
  /-- The file of the configuration that the arguments name. -/
  configuration : Option String
  /-- How often the arguments ask for more detailed logging. -/
  verbosity : Nat
  /-- The arguments say all this. -/
  parsed : Invocation.ofArguments arguments =
    .ok ⟨.query snapshot request principal limit true, configuration, verbosity⟩
  /-- The account. -/
  account : Store.Account
  /-- The snapshot can be loaded. -/
  loads : ((Store.loadAccount access snapshot).run folder).1 = .ok account
  /-- The text of the request. -/
  text : List Char
  /-- The request can be read. -/
  reads : ((readSource (onFolder input configurationFile logDirectory)
      request).run folder).1 =
    .ok text
  /-- The request itself. -/
  value : Json
  /-- The request is JSON. -/
  document : Json.read? text = some value

namespace Inquiry

/-- The settings of queries in the configuration that applies. -/
def settings (inquiry : Inquiry) : Query.Settings :=
  (configurationOf
      (onFolder inquiry.input inquiry.configurationFile inquiry.logDirectory)
    ⟨.query inquiry.snapshot inquiry.request inquiry.principal
        inquiry.limit true,
      inquiry.configuration, inquiry.verbosity⟩ inquiry.folder).1.query

/-- What comes of the program. -/
def outcome (inquiry : Inquiry) : Outcome :=
  (run (onFolder inquiry.input inquiry.configurationFile inquiry.logDirectory)
    inquiry.arguments inquiry.folder).1

/-- What the library answers to a request from the same account, asked by the
same principal. -/
def library (inquiry : Inquiry) (value : Json) :
    Except Query.Error (Attempt Query.Answer) :=
  libraryAnswer inquiry.settings inquiry.account inquiry.principal value

/-- The program reports what the library answers to the request that it makes of
the file. -/
theorem reports
    (inquiry : Inquiry)
    {asked : Json}
    (same : (withLimit inquiry.limit inquiry.value.sortKeys).sortKeys =
      asked.sortKeys) :
    Reports (inquiry.library asked) inquiry.outcome :=
  reports_run inquiry.parsed inquiry.loads inquiry.reads inquiry.document same

/--
The program reports what the library answers to the request with the limit of
the arguments, in whatever form the request is written but that of a list.  A
list is asked as it is, although the library would take a limit in it too, and
list no more messages than that.
-/
theorem reports_library_answer
    (inquiry : Inquiry) :
    (inquiry.limit = none ∨ (∀ items, inquiry.value ≠ .arr items) →
      Reports (inquiry.library (overridden inquiry.limit inquiry.value))
        inquiry.outcome) ∧
    (∀ items, inquiry.value = .arr items →
      Reports (inquiry.library inquiry.value) inquiry.outcome) ∧
    (∀ limit answer, inquiry.limit = some limit →
      inquiry.library (overridden inquiry.limit inquiry.value) =
          .ok (some answer) →
        answer.messageIds.length ≤ limit) := by
  refine ⟨fun takes => inquiry.reports (sortKeys_withLimit takes), ?_, ?_⟩
  · intro items isList
    apply inquiry.reports
    rw [isList]
    exact sortKeys_withLimit_arr items
  · intro limit answer given answered
    rw [given] at answered
    unfold library libraryAnswer at answered
    dsimp only at answered
    split at answered
    · cases answered
    · exact Query.Engine.length_messageIds_relimited_le answered

/-! ## A folder with two requests -/

/-- A snapshot of one message, an object without members and a list without
items. -/
def shelf : Folder where
  directories := []
  files :=
    [(["s.json".toList],
      Text.Utf8.bytes
        ("\x7b\"principal\":\"a\",\"mailboxes\":[\x7b\"id\":\"i\"\x7d]," ++
          "\"messages\":[\x7b\"id\":\"m\",\"mailboxIds\":[\"i\"]," ++
          "\"receivedAt\":\"2024-01-01T00:00:00Z\"\x7d]\x7d")),
      (["object.json".toList], Text.Utf8.bytes "\x7b\x7d"),
      (["list.json".toList], Text.Utf8.bytes "[]")]

/-- The account that the snapshot describes. -/
def shelfAccount : Store.Account :=
  ((Store.loadAccount access "s.json").run shelf).1.toOption.getD (.empty "")

theorem loads_shelf :
    ((Store.loadAccount access "s.json").run shelf).1 = .ok shelfAccount := by
  have found :
      ((Store.loadAccount access "s.json").run shelf).1.toOption.isSome =
      true := by
    decide +kernel
  unfold shelfAccount
  generalize ((Store.loadAccount access "s.json").run shelf).1 = outcome
    at found ⊢
  cases outcome with
  | error cause => cases found
  | ok account => rfl

/-- The query for the request in a file of the folder, with the limit zero. -/
def shelfInquiry (request : String)
    (parsed : Invocation.ofArguments ["query", "s.json", request, "--json",
        "--limit", "0"] =
      .ok ⟨.query "s.json" request none (some 0) true, none, 0⟩)
    (text : List Char)
    (reads : ((readSource (onFolder [] none none) request).run shelf).1 =
      .ok text)
    (value : Json)
    (document : Json.read? text = some value) : Inquiry :=
  ⟨shelf, [], none, none, _, "s.json", request, none, some 0, none, 0, parsed,
    shelfAccount, loads_shelf, text, reads, value, document⟩

/-- The query for the object. -/
def objectInquiry : Inquiry :=
  shelfInquiry "object.json" rfl ['\x7b', '\x7d']
    (Outcome.eq_ok_of_toOption (by decide +kernel)) (.obj []) (by cbv)

/-- The query for the list. -/
def listInquiry : Inquiry :=
  shelfInquiry "list.json" rfl ['[', ']']
    (Outcome.eq_ok_of_toOption (by decide +kernel)) (.arr []) (by cbv)

/-- The object is asked with the limit zero, and the list without a limit. -/
theorem requests_on_shelf :
    (∀ items, objectInquiry.value ≠ .arr items) ∧
    Reports (objectInquiry.library (overridden (some 0) (.obj [])))
      objectInquiry.outcome ∧
    (∀ answer, objectInquiry.library (overridden (some 0) (.obj [])) =
        .ok (some answer) →
      answer.messageIds.length ≤ 0) ∧
    listInquiry.value = .arr [] ∧
    Reports (listInquiry.library (.arr [])) listInquiry.outcome := by
  have noList : ∀ items, objectInquiry.value ≠ .arr items := nofun
  obtain ⟨reports, -, bounded⟩ := reports_library_answer objectInquiry
  obtain ⟨-, reportsList, -⟩ := reports_library_answer listInquiry
  exact ⟨noList, reports (.inr noList), fun answer => bounded 0 answer rfl, rfl,
    reportsList [] rfl⟩

/-- What a program printed is the answer that it reports. -/
theorem printed_of_reports
    {answered : Except Query.Error (Attempt Query.Answer)}
    {outcome : Outcome}
    (reports : Reports answered outcome) :
    (answered.toOption.join.map fun answer => printJson answer.toJson) =
      if outcome.code = 0 then some outcome.output else none := by
  cases reports with
  | answer answer => rfl
  | error cause failed => exact (if_neg failed).symm

/-- With the limit zero the program prints the message that it finds for the
list. -/
theorem limit_ignored_in_list :
    ¬ ∀ inquiry : Inquiry,
      Reports (inquiry.library (overridden inquiry.limit inquiry.value))
        inquiry.outcome := by
  intro agrees
  have limited := printed_of_reports (agrees listInquiry)
  have unlimited :=
    printed_of_reports (listInquiry.reports (sortKeys_withLimit_arr []))
  have different :
      ((listInquiry.library (overridden (some 0) (.arr []))).toOption.join.map
        fun answer => printJson answer.toJson) ≠
      (listInquiry.library (.arr [])).toOption.join.map fun answer =>
        printJson answer.toJson := by
    decide +kernel
  exact different (limited.trans unlimited.symm)

end Inquiry

end Command
end MailSearch
