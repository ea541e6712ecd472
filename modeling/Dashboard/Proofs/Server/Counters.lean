import Dashboard.Proofs.Server.Data

/-
  What the counters tell, over any sequence of calls of a
  service and of requests for interpretations and for data:
  which stage answered how often, why the rules had to, and
  how often each dataset was asked for.

  Key definitions include:
    * `Counters.sumOf` and `Counters.Grows`
    * `Use` and `Use.marks`
    * `Server.heard?`
    * `Server.use` and `Server.useAll`
    * `Counters.AgreesWith`

  Main declarations:
    * `Counters.grows_value`
    * `Counters.grows_sumOf`
    * `Server.use_eq`
    * `Server.respond_interpret`
    * `Counters.Grows.useAll`
    * `Server.agreesWith_useAll`
-/

------------------------------------------------------------
-- Measures
------------------------------------------------------------

namespace Dashboard

namespace Counters

/- The sum of the values of all counters of a family. -/
def sumOf (family : Counter → Bool) : Counters → Nat
  | [] => 0
  | (counter, count) :: rest =>
      (if family counter then count else 0) +
        sumOf family rest

/-
  A measure of counters that grows by one whenever a counter
  of a family does, and stays otherwise.
-/
def Grows
    (measure : Counters → Nat)
    (family : Counter → Bool) : Prop :=
  ∀ counters counter,
    measure (add counter counters) =
      measure counters + if family counter then 1 else 0

theorem value_nil (counter : Counter) :
    value [] counter = 0 := rfl

theorem value_cons
    (key : Counter)
    (count : Nat)
    (rest : Counters)
    (counter : Counter) :
    value ((key, count) :: rest) counter =
      if counter = key then count else value rest counter := by
  unfold value
  rw [List.lookup_cons]
  split
  · rename_i hKey
    rw [if_pos (beq_iff_eq.mp hKey)]
    rfl
  · rename_i hKey
    rw [if_neg (by simpa using hKey)]

theorem value_add
    (counters : Counters)
    (counter other : Counter) :
    (add other counters).value counter =
      counters.value counter +
        if other == counter then 1 else 0 := by
  fun_induction add other counters with
  | case1 =>
      by_cases hCounter : counter = other
      · simp [value_cons, value_nil, hCounter]
      · simp [value_cons, value_nil, hCounter,
          Ne.symm hCounter]
  | case2 count rest =>
      by_cases hCounter : counter = other
      · simp [value_cons, hCounter]
      · simp [value_cons, hCounter, Ne.symm hCounter]
  | case3 key count rest hKey ih =>
      rw [value_cons, value_cons, ih]
      by_cases hCounter : counter = key
      · subst hCounter
        simp [hKey]
      · simp [hCounter]

theorem grows_value (counter : Counter) :
    Grows (fun counters => counters.value counter)
      (fun other => other == counter) :=
  fun counters other => value_add counters counter other

theorem grows_sumOf (family : Counter → Bool) :
    Grows (sumOf family) family := by
  intro counters other
  fun_induction add other counters with
  | case1 => simp [sumOf]
  | case2 count rest =>
      rw [sumOf, sumOf]
      split
      · omega
      · omega
  | case3 key count rest hKey ih =>
      rw [sumOf, sumOf, ih]
      omega

namespace Grows

variable {measure : Counters → Nat}
variable {family : Counter → Bool}

theorem addAll
    (hGrows : Grows measure family)
    (counters : Counters)
    (more : List Counter) :
    measure (counters.addAll more) =
      measure counters + more.countP family := by
  induction more generalizing counters with
  | nil => rfl
  | cons counter rest ih =>
      have hRest := ih (add counter counters)
      rw [hGrows counters counter] at hRest
      rw [List.countP_cons, Counters.addAll, List.foldl_cons]
      rw [Counters.addAll] at hRest
      omega

end Grows

/- Nothing has been counted. -/
def AllZero (counters : Counters) : Prop :=
  ∀ entry ∈ counters, entry.2 = 0

theorem AllZero.value
    {counters : Counters}
    (hZero : counters.AllZero)
    (counter : Counter) :
    counters.value counter = 0 := by
  induction counters with
  | nil => rfl
  | cons entry rest ih =>
      rcases List.forall_mem_cons.mp hZero with
        ⟨hEntry, hRest⟩
      rw [value_cons, hEntry, ih hRest, ite_self]

theorem AllZero.sumOf
    {counters : Counters}
    (hZero : counters.AllZero)
    (family : Counter → Bool) :
    counters.sumOf family = 0 := by
  induction counters with
  | nil => rfl
  | cons entry rest ih =>
      rcases List.forall_mem_cons.mp hZero with
        ⟨hEntry, hRest⟩
      rw [Counters.sumOf, hEntry, ih hRest, ite_self]

end Counters

end Dashboard

------------------------------------------------------------
-- Uses
------------------------------------------------------------

namespace Dashboard

/-
  What is counted besides requests: a service is asked for
  one or for all interpretations of a prompt, or a request
  for interpretations or for data comes in.
-/
inductive Use where
  | interpret (service : Service) (prompt : String)
  | interpretMany (service : Service) (prompt : String)
  | ask
      (outside : Outside)
      (request : HttpRequest)
      (hPath : request.path = Route.interpret.path)
  | data
      (outside : Outside)
      (request : HttpRequest)
      (hPath : request.path = Route.data.path)

namespace Server

/-
  The prompt of a request for interpretations, if the service
  of the server is done with it in time.
-/
def heard?
    (server : Server)
    (request : HttpRequest) : Option String :=
  if Route.interpret.accepts request.method then
    request.prompt?.filter fun prompt =>
      (server.state.service.interpretMany prompt).delay <
        server.timeoutMs
  else
    none

/- The outcome for a request that is heard. -/
def outcome?
    (server : Server)
    (request : HttpRequest) :
    Option (Outcome (List Interpretation)) :=
  (server.heard? request).map fun prompt =>
    (server.state.service.interpretMany prompt).value

end Server

namespace Use

variable (server : Server)

/- Whether a service is asked. -/
def isCall : Use → Bool
  | interpret .. => true
  | interpretMany .. => true
  | ask _ request _ => (server.heard? request).isSome
  | data .. => false

/- The source of the outcome when a service is asked. -/
def source? : Use → Option Source
  | interpret service prompt =>
      some (service.interpret prompt).value.source
  | interpretMany service prompt =>
      some (service.interpretMany prompt).value.source
  | ask _ request _ =>
      (server.outcome? request).map Outcome.source
  | data .. => none

/- The dataset that is queried. -/
def dataset? : Use → Option Dataset
  | data _ request _ => request.queriedDataset?
  | _ => none

/- What counts when a server is used. -/
def marks : Use → List Counter
  | interpret service prompt =>
      (service.interpret prompt).value.counters
  | interpretMany service prompt =>
      (service.interpretMany prompt).value.counters
  | ask _ request _ =>
      ((server.outcome? request).map
        Outcome.counters).getD []
  | data _ request _ =>
      Counter.ofQueried request.queriedDataset?

end Use

namespace Server

/- The server after a use. -/
def use (server : Server) : Use → Server
  | .interpret service prompt =>
      server.count (service.interpret prompt).value.counters
  | .interpretMany service prompt =>
      server.count
        (service.interpretMany prompt).value.counters
  | .ask outside request _ =>
      (server.respond outside request).2
  | .data outside request _ =>
      (server.respond outside request).2

/- The server after several uses. -/
def useAll (server : Server) (uses : List Use) : Server :=
  uses.foldl use server

end Server

end Dashboard

------------------------------------------------------------
-- Steps
------------------------------------------------------------

namespace Dashboard

namespace Server

variable {server : Server}

/-
  A request for interpretations counts what the service does
  with a prompt that is heard, and perhaps the request itself.
-/
theorem respond_interpret
    (hTime : 0 < server.timeoutMs)
    (outside : Outside)
    {request : HttpRequest}
    (hPath : request.path = Route.interpret.path) :
    ∃ more, more.all Counter.isOfRequests = true ∧
      (server.respond outside request).2 =
        (server.count
          (((server.outcome? request).map
            Outcome.counters).getD [])).count more := by
  unfold respond outcome? heard?
  split
  · rename_i hOptions
    refine ⟨[], rfl, ?_⟩
    rw [hOptions]
    rfl
  · have hRoute :
        Route.ofPath? request.path = some .interpret := by
      rw [hPath]
      decide
    have hServe :=
      server.state.serve_of_path outside hRoute
        server.timeoutMs
    dsimp only
    rw [hServe]
    cases hMethod : Route.interpret.accepts request.method with
    | false =>
        have hOn :=
          server.state.respondOn_of_not_accepts outside
            request hMethod
        rw [hOn.1, if_pos hTime, hOn.2]
        refine ⟨_, ?_, rfl⟩
        simp [Counter.isOfRequests]
    | true =>
        have hOn :=
          server.state.respondOn_of_accepts outside request
            hMethod
        rw [hOn.1, hOn.2, ServerState.answer,
          ServerState.interpret]
        cases request.prompt? with
        | none =>
            refine ⟨_, ?_, congrArg _ (if_pos hTime)⟩
            simp [Counter.isOfRequests]
        | some prompt =>
            dsimp only
            by_cases hHeard :
                (server.state.service.interpretMany
                    prompt).delay <
                  server.timeoutMs
            · rw [if_pos hHeard, Option.filter_some_pos
                (by simpa using hHeard)]
              refine ⟨_, ?_, rfl⟩
              simp [Counter.isOfRequests]
            · rw [if_neg hHeard, Option.filter_some_neg
                (by simpa using hHeard)]
              exact ⟨[], rfl, rfl⟩

/-
  One use: its marks are counted, and perhaps a request, and
  nothing else of the server changes.
-/
theorem use_eq
    (hPrompt : server.IsPrompt)
    (use : Use) :
    ∃ more, more.all Counter.isOfRequests = true ∧
      server.use use =
        (server.count (use.marks server)).count more := by
  cases use with
  | interpret service prompt => exact ⟨[], rfl, rfl⟩
  | interpretMany service prompt => exact ⟨[], rfl, rfl⟩
  | ask outside request hPath =>
      exact respond_interpret hPrompt.time outside hPath
  | data outside request hPath =>
      exact respond_data hPrompt outside hPath

theorem IsPrompt.use
    (hPrompt : server.IsPrompt)
    (use : Use) :
    (server.use use).IsPrompt := by
  rcases use_eq hPrompt use with ⟨more, -, hUse⟩
  rw [hUse]
  exact ⟨hPrompt.time, hPrompt.latency⟩

/- What a use counts does not depend on earlier ones. -/
theorem marks_use
    (hPrompt : server.IsPrompt)
    (use other : Use) :
    other.marks (server.use use) = other.marks server := by
  rcases use_eq hPrompt use with ⟨more, -, hUse⟩
  rw [hUse]
  cases other with
  | interpret service prompt => rfl
  | interpretMany service prompt => rfl
  | ask outside request hPath => rfl
  | data outside request hPath => rfl

end Server

namespace Counters

namespace Grows

variable {measure : Counters → Nat}
variable {family : Counter → Bool}
variable {server : Server}

/- Counting requests does not matter to other families. -/
theorem countP_of_isOfRequests
    (hRequests :
      ∀ route method status,
        family (.requests route method status) = false)
    {more : List Counter}
    (hMore : more.all Counter.isOfRequests = true) :
    more.countP family = 0 := by
  rw [List.countP_eq_zero]
  intro counter hMem
  have hCounter := List.all_eq_true.mp hMore counter hMem
  cases counter with
  | interpretations source => cases hCounter
  | fallbacks reason => cases hCounter
  | dataQueries dataset => cases hCounter
  | requests route method status =>
      simp [hRequests route method status]

/- A use makes a measure grow by its marks in the family. -/
theorem use
    (hGrows : Grows measure family)
    (hRequests :
      ∀ route method status,
        family (.requests route method status) = false)
    (hPrompt : server.IsPrompt)
    (use : Use) :
    measure (server.use use).state.counters =
      measure server.state.counters +
        (use.marks server).countP family := by
  rcases Server.use_eq hPrompt use with ⟨more, hMore, hUse⟩
  have hMarks :=
    hGrows.addAll server.state.counters (use.marks server)
  have hRest :=
    hGrows.addAll
      (server.state.counters.addAll (use.marks server)) more
  rw [countP_of_isOfRequests hRequests hMore] at hRest
  rw [hUse]
  exact hRest.trans hMarks

/-
  All uses make a measure grow by the number of those with a
  mark in the family.
-/
theorem useAll
    (hGrows : Grows measure family)
    (hRequests :
      ∀ route method status,
        family (.requests route method status) = false)
    {matters : Use → Bool}
    (hMarks :
      ∀ use : Use,
        (use.marks server).countP family =
          if matters use then 1 else 0)
    (hPrompt : server.IsPrompt)
    (uses : List Use) :
    measure (server.useAll uses).state.counters =
      measure server.state.counters +
        uses.countP matters := by
  induction uses generalizing server with
  | nil => rfl
  | cons use rest ih =>
      have hLater :
          ∀ other : Use,
            (other.marks (server.use use)).countP family =
              if matters other then 1 else 0 := by
        intro other
        rw [Server.marks_use hPrompt]
        exact hMarks other
      have hRest := ih hLater (hPrompt.use use)
      have hUse := hGrows.use hRequests hPrompt use
      rw [hMarks] at hUse
      rw [Server.useAll, List.foldl_cons, List.countP_cons]
      rw [Server.useAll] at hRest
      omega

end Grows

end Counters

end Dashboard

------------------------------------------------------------
-- Sources
------------------------------------------------------------

namespace Dashboard

namespace FallbackReason

/- Whether two reasons are of the same kind. -/
def isLike : FallbackReason → FallbackReason → Bool
  | disabled, disabled => true
  | timeout, timeout => true
  | transport _, transport _ => true
  | malformed _, malformed _ => true
  | mismatch _, mismatch _ => true
  | _, _ => false

/- The labels tell the kinds of reasons apart. -/
theorem label_eq_label_iff (reason other : FallbackReason) :
    other.label = reason.label ↔
      reason.isLike other = true := by
  rw [← beq_iff_eq]
  cases reason <;> cases other <;> exact Iff.rfl

end FallbackReason

/- Whether a counter is one of uses of the rules. -/
def Counter.isOfFallbacks : Counter → Bool
  | fallbacks _ => true
  | _ => false

namespace Source

/- What an outcome of a stage counts. -/
def counters : Source → List Counter
  | hosted => [.interpretations "hosted"]
  | ruleBased reason =>
      [.fallbacks reason.label,
        .interpretations "rule_based"]

/- Whether the rules had to answer. -/
def isRuleBased : Source → Bool
  | hosted => false
  | ruleBased _ => true

/- Whether they had to for a reason of this kind. -/
def carries (reason : FallbackReason) : Source → Bool
  | hosted => false
  | ruleBased other => reason.isLike other

variable (source : Source)

theorem countP_counters_hosted :
    source.counters.countP (· == .interpretations "hosted") =
      if source == hosted then 1 else 0 := by
  cases source with
  | hosted => rfl
  | ruleBased reason => rfl

theorem countP_counters_ruleBased :
    source.counters.countP
        (· == .interpretations "rule_based") =
      if source.isRuleBased then 1 else 0 := by
  cases source with
  | hosted => rfl
  | ruleBased reason => rfl

theorem countP_counters_fallbacks :
    source.counters.countP Counter.isOfFallbacks =
      if source.isRuleBased then 1 else 0 := by
  cases source with
  | hosted => rfl
  | ruleBased reason => rfl

theorem countP_counters_reason (reason : FallbackReason) :
    source.counters.countP (· == .fallbacks reason.label) =
      if source.carries reason then 1 else 0 := by
  cases source with
  | hosted => rfl
  | ruleBased other =>
      have hLabel :=
        FallbackReason.label_eq_label_iff reason other
      by_cases hLike : reason.isLike other
      · simp [counters, carries, hLike, hLabel.mpr hLike]
      · simp [counters, carries, hLike, hLabel]

theorem countP_counters_query (dataset : Dataset) :
    source.counters.countP (· == .dataQueries dataset) =
      0 := by
  cases source with
  | hosted => rfl
  | ruleBased reason => rfl

end Source

/- An outcome counts what its source says. -/
theorem Outcome.counters_ofStages
    {α : Type}
    (hosted : Except FallbackReason α)
    (byRules : α) :
    (ofStages hosted byRules).counters =
      (ofStages hosted byRules).source.counters := by
  cases hosted with
  | ok result => rfl
  | error reason => rfl

end Dashboard

------------------------------------------------------------
-- Marks
------------------------------------------------------------

namespace Dashboard

namespace Use

variable {family : Counter → Bool}
variable (server : Server)

/- A use counts what its source says, or a query. -/
theorem marks_eq (use : Use) :
    use.marks server =
      match use.source? server with
      | some source => source.counters
      | none => Counter.ofQueried use.dataset? := by
  cases use with
  | interpret service prompt =>
      exact Outcome.counters_ofStages _ _
  | interpretMany service prompt =>
      exact Outcome.counters_ofStages _ _
  | ask outside request hPath =>
      dsimp only [marks, source?, Server.outcome?]
      cases server.heard? request with
      | none => rfl
      | some prompt => exact Outcome.counters_ofStages _ _
  | data outside request hPath => rfl

theorem isSome_source? (use : Use) :
    (use.source? server).isSome = use.isCall server := by
  cases use with
  | interpret service prompt => rfl
  | interpretMany service prompt => rfl
  | ask outside request hPath =>
      rw [source?, isCall, Server.outcome?, Option.map_map,
        Option.isSome_map]
  | data outside request hPath => rfl

/- Each call, and nothing else, has an outcome of a stage. -/
theorem hosted_add_ruleBased (use : Use) :
    ((if (use.source? server).any (· == .hosted) then
          1
        else
          0) +
        if (use.source? server).any Source.isRuleBased then
          1
        else
          0) =
      if use.isCall server then 1 else 0 := by
  rw [← isSome_source?]
  rcases use.source? server with _ | _ | reason
  · rfl
  · rfl
  · rfl

theorem countP_hosted_add_countP_ruleBased
    (uses : List Use) :
    uses.countP
          (fun use => (use.source? server).any (· == .hosted)) +
        uses.countP
          (fun use =>
            (use.source? server).any Source.isRuleBased) =
      uses.countP (·.isCall server) := by
  induction uses with
  | nil => rfl
  | cons use rest ih =>
      have hUse := use.hosted_add_ruleBased server
      rw [List.countP_cons, List.countP_cons,
        List.countP_cons]
      omega

/- Where queries do not matter, the source of a call does. -/
theorem countP_marks_of_source
    (hQueries :
      ∀ dataset, family (.dataQueries dataset) = false)
    {matters : Source → Bool}
    (hCounters :
      ∀ source : Source,
        source.counters.countP family =
          if matters source then 1 else 0)
    (use : Use) :
    (use.marks server).countP family =
      if (use.source? server).any matters then 1 else 0 := by
  rw [marks_eq]
  cases use.source? server with
  | some source => exact hCounters source
  | none =>
      cases use.dataset? with
      | none => rfl
      | some dataset =>
          simp [Counter.ofQueried, hQueries]

theorem countP_marks_query
    (dataset : Dataset)
    (use : Use) :
    (use.marks server).countP (· == .dataQueries dataset) =
      if use.dataset? == some dataset then 1 else 0 := by
  rw [marks_eq]
  cases use with
  | interpret service prompt =>
      exact Source.countP_counters_query _ dataset
  | interpretMany service prompt =>
      exact Source.countP_counters_query _ dataset
  | ask outside request hPath =>
      cases (ask outside request hPath).source? server with
      | none => rfl
      | some source =>
          exact source.countP_counters_query dataset
  | data outside request hPath =>
      rw [source?, dataset?]
      cases request.queriedDataset? with
      | none => rfl
      | some other => simp [Counter.ofQueried]

end Use

end Dashboard

------------------------------------------------------------
-- Main Results
------------------------------------------------------------

namespace Dashboard

/-
  What the counters have to tell after some uses.  They hold
  one source for each call and one reason for each outcome of
  the rules; a query counts for its dataset alone, and what
  is not answered with records does not count.
-/
structure Counters.AgreesWith
    (counters : Counters)
    (server : Server)
    (uses : List Use) : Prop where
  calls :
    counters.value (.interpretations "hosted") +
        counters.value (.interpretations "rule_based") =
      uses.countP (·.isCall server)
  hosted :
    counters.value (.interpretations "hosted") =
      uses.countP fun use =>
        (use.source? server).any (· == .hosted)
  fallbacks :
    counters.sumOf Counter.isOfFallbacks =
      counters.value (.interpretations "rule_based")
  reasons :
    ∀ reason : FallbackReason,
      counters.value (.fallbacks reason.label) =
        uses.countP fun use =>
          (use.source? server).any (·.carries reason)
  queries :
    ∀ dataset,
      counters.value (.dataQueries dataset) =
        uses.countP (·.dataset? == some dataset)

namespace Server

variable {server : Server}

/-
  A measure that is zero at first becomes the number of those
  outcomes whose source matters to it.
-/
theorem measure_useAll
    {measure : Counters → Nat}
    {family : Counter → Bool}
    {matters : Source → Bool}
    (hGrows : Counters.Grows measure family)
    (hRequests :
      ∀ route method status,
        family (.requests route method status) = false)
    (hQueries :
      ∀ dataset, family (.dataQueries dataset) = false)
    (hCounters :
      ∀ source : Source,
        source.counters.countP family =
          if matters source then 1 else 0)
    (hPrompt : server.IsPrompt)
    (hZero : measure server.state.counters = 0)
    (uses : List Use) :
    measure (server.useAll uses).state.counters =
      uses.countP fun use =>
        (use.source? server).any matters := by
  have hAll :=
    hGrows.useAll hRequests
      (Use.countP_marks_of_source server hQueries hCounters)
      hPrompt uses
  rwa [hZero, Nat.zero_add] at hAll

/-
  The counters tell what has happened: over any uses of a
  server that has counted nothing and does not delay requests
  for data, they agree with the uses.
-/
theorem agreesWith_useAll
    (hPrompt : server.IsPrompt)
    (hZero : server.state.counters.AllZero)
    (uses : List Use) :
    (server.useAll uses).state.counters.AgreesWith server
      uses := by
  have hHosted :=
    measure_useAll
      (Counters.grows_value (.interpretations "hosted"))
      (fun _ _ _ => rfl) (fun _ => rfl)
      Source.countP_counters_hosted hPrompt (hZero.value _)
      uses
  have hRuleBased :=
    measure_useAll
      (Counters.grows_value (.interpretations "rule_based"))
      (fun _ _ _ => rfl) (fun _ => rfl)
      Source.countP_counters_ruleBased hPrompt
      (hZero.value _) uses
  have hFallbacks :=
    measure_useAll
      (Counters.grows_sumOf Counter.isOfFallbacks)
      (fun _ _ _ => rfl) (fun _ => rfl)
      Source.countP_counters_fallbacks hPrompt
      (hZero.sumOf _) uses
  refine ⟨?_, hHosted, ?_, ?_, ?_⟩
  · rw [hHosted, hRuleBased]
    exact
      Use.countP_hosted_add_countP_ruleBased server uses
  · rw [hFallbacks, hRuleBased]
  · intro reason
    exact measure_useAll
      (Counters.grows_value (.fallbacks reason.label))
      (fun _ _ _ => rfl) (fun _ => rfl)
      (Source.countP_counters_reason · reason) hPrompt
      (hZero.value _) uses
  · intro dataset
    have hQueries :=
      (Counters.grows_value (.dataQueries dataset)).useAll
        (fun _ _ _ => rfl)
        (Use.countP_marks_query server dataset) hPrompt uses
    rwa [hZero.value, Nat.zero_add] at hQueries

/- A service whose model always writes this text. -/
def writing (text : String) : Service where
  hosted :=
    .enabled
      { model := "sample"
        generate := fun _ => ⟨5, .ok ⟨text, 9, .stop⟩⟩
        probe := ⟨0, true⟩ }
      1000
  lexicon := .standard

/- A card as a model may write it. -/
def cardText : String :=
  "\x7b\"componentType\":\"card\",\"datasetType\":\"users\"," ++
    "\"title\":\"a\",\"description\":\"b\"\x7d"

/- A request for data with a method and some parameters. -/
def asking (method query : String) : Use :=
  .data (saying .absent) ⟨method, "/api/data", query, [], ""⟩
    rfl

/- A request for the interpretations of a prompt. -/
def askingAbout (prompt : String) : Use :=
  .ask (saying .absent)
    { method := "POST"
      path := "/api/interpret"
      query := ""
      headers := [("content-type", "application/json")]
      body := "\x7b\"prompt\":\"" ++ prompt ++ "\"\x7d" }
    rfl

/-
  The model is of use once, and once it is not; the service of
  the server, which has no model, is asked by a request, and
  so are records, of which one request names no dataset and
  one has another method.
-/
def sampleUses : List Use :=
  [.interpret (writing cardText) "show users",
    .interpretMany (writing "no idea") "show users",
    askingAbout "show users",
    askingAbout "",
    asking "GET" "type=sales",
    asking "GET" "type=weather",
    asking "POST" "type=sales"]

/- Each of the uses that count does so once. -/
theorem agreesWith_useAll_sample :
    (sampleServer.useAll sampleUses).state.counters.AgreesWith
        sampleServer sampleUses ∧
      (sampleServer.useAll sampleUses).state.counters.value
          (.interpretations "hosted") = 1 ∧
      (sampleServer.useAll sampleUses).state.counters.value
          (.fallbacks "malformed_response") = 1 ∧
      (sampleServer.useAll sampleUses).state.counters.value
          (.fallbacks "disabled") = 1 ∧
      (sampleServer.useAll sampleUses).state.counters.value
          (.dataQueries .sales) = 1 := by
  have hPrompt : sampleServer.IsPrompt := ⟨by decide, rfl⟩
  have hAgrees := agreesWith_useAll hPrompt nofun sampleUses
  refine ⟨hAgrees, ?_, ?_, ?_, ?_⟩
  · rw [hAgrees.hosted]
    decide +kernel
  · have hReason :=
      hAgrees.reasons (.malformed (.response ""))
    rw [FallbackReason.label] at hReason
    rw [hReason]
    decide +kernel
  · have hReason := hAgrees.reasons .disabled
    rw [FallbackReason.label] at hReason
    rw [hReason]
    decide +kernel
  · rw [hAgrees.queries]
    decide +kernel

end Server

end Dashboard
