import Dashboard.Proofs.Settings.Validity
import Dashboard.Server.Basic
import Mathlib.Data.List.Basic

/-
  Which origins may use the server, and with which origins it
  starts.  The check of the settings does not look at origins.
  An origin that may not stand in a header field is left out,
  but one origin that may, the sign for every origin, keeps
  the server from starting.

  Key definitions include:
    * `HttpHeader.Legal`
    * `CrossOrigin.Allows` and `CrossOrigin.Follows`
    * `Settings.withOrigins`

  Main declarations:
    * `CrossOrigin.ofSettings?_of_wildcard`
    * `CrossOrigin.exists_follows`
    * `Server.ofState_withOrigins`
-/

------------------------------------------------------------
-- Legal Texts
------------------------------------------------------------

namespace Dashboard

namespace HttpHeader

/-
  A text without control characters, of which only the tab
  may stand in a header field.
-/
def Legal (text : String) : Prop :=
  ∀ c ∈ text.toList, c = '\t' ∨ 32 ≤ c.toNat ∧ c.toNat ≠ 127

theorem isLegal_iff (text : String) :
    isLegal text = true ↔ Legal text := by
  unfold isLegal Legal
  rw [List.all_eq_true]
  refine forall₂_congr fun c _ => ?_
  rw [Bool.or_eq_true, Bool.and_eq_true, beq_iff_eq,
    decide_eq_true_eq, bne_iff_ne]
  rfl

theorem legal_wildcard : Legal CrossOrigin.wildcard := by
  rw [← isLegal_iff]
  decide

end HttpHeader

end Dashboard

------------------------------------------------------------
-- Policies
------------------------------------------------------------

namespace Dashboard

namespace CrossOrigin

/-
  Pages of an origin may use the server: they are told that
  their origin is allowed, or that every origin is.
-/
def Allows (policy : CrossOrigin) (origin : String) : Prop :=
  policy.allowed? (some origin) = some origin ∨
    policy.allowed? (some origin) = some wildcard

/- Nothing but the one origin is told to be allowed. -/
theorem allows_single_iff
    {allowed : String}
    (hAllowed : allowed ≠ wildcard)
    (origin : String) :
    (single allowed).Allows origin ↔ origin = allowed := by
  have hNever : some allowed ≠ some wildcard :=
    fun h => hAllowed (Option.some.inj h)
  unfold Allows allowed?
  rw [or_iff_left hNever, Option.some.injEq]
  exact eq_comm

theorem allows_listed_iff
    (origins : List String)
    (origin : String) :
    (listed origins).Allows origin ↔ origin ∈ origins := by
  unfold Allows allowed?
  simp only [Option.filter_some, List.contains_iff_mem]
  split
  · rename_i hMem
    exact iff_of_true (.inl rfl) hMem
  · rename_i hOther
    exact iff_of_false (by simp) hOther

variable {settings : ServerSettings}

theorem ofSettings?_of_disabled
    (hDisabled : settings.corsEnabled = false) :
    ofSettings? settings = some anyone := by
  simp [ofSettings?, hDisabled]

section Enabled

variable (hEnabled : settings.corsEnabled = true)

include hEnabled

/- The sign for every origin is legal and refused. -/
theorem ofSettings?_of_wildcard
    (hWildcard : wildcard ∈ settings.corsOrigins) :
    ofSettings? settings = none := by
  have hLegal : HttpHeader.isLegal wildcard = true := by
    rw [HttpHeader.isLegal_iff]
    exact HttpHeader.legal_wildcard
  have hMem :
      wildcard ∈
        settings.corsOrigins.filter HttpHeader.isLegal :=
    List.mem_filter.mpr ⟨hWildcard, hLegal⟩
  have hSome :
      (settings.corsOrigins.filter
        HttpHeader.isLegal).isEmpty = false :=
    List.isEmpty_eq_false_iff.mpr (List.ne_nil_of_mem hMem)
  simp [ofSettings?, hEnabled, hSome, hMem]

/- Without a legal origin only the initial one is allowed. -/
theorem ofSettings?_of_no_legal
    (hNone :
      ∀ o ∈ settings.corsOrigins, ¬ HttpHeader.Legal o) :
    ofSettings? settings =
      some (single ServerSettings.defaultOrigin) := by
  have hEmpty :
      settings.corsOrigins.filter HttpHeader.isLegal = [] := by
    rw [List.filter_eq_nil_iff]
    intro o hMem
    rw [HttpHeader.isLegal_iff]
    exact hNone o hMem
  simp [ofSettings?, hEnabled, hEmpty]

theorem ofSettings?_of_exists_legal
    (hSome :
      ∃ o ∈ settings.corsOrigins, HttpHeader.Legal o)
    (hWildcard : wildcard ∉ settings.corsOrigins) :
    ofSettings? settings =
      some
        (listed
          (settings.corsOrigins.filter
            HttpHeader.isLegal)) := by
  rcases hSome with ⟨o, hMem, hLegal⟩
  rw [← HttpHeader.isLegal_iff] at hLegal
  have hFilled :
      (settings.corsOrigins.filter
        HttpHeader.isLegal).isEmpty = false :=
    List.isEmpty_eq_false_iff.mpr
      (List.ne_nil_of_mem (List.mem_filter.mpr ⟨hMem, hLegal⟩))
  have hOther :
      wildcard ∉
        settings.corsOrigins.filter HttpHeader.isLegal :=
    fun h => hWildcard (List.mem_filter.mp h).1
  simp [ofSettings?, hEnabled, hFilled, hOther]

end Enabled

/-
  A policy that allows what settings ask for: everybody, or
  the legal origins that are listed, or the initial one.
-/
structure Follows
    (policy : CrossOrigin)
    (settings : ServerSettings) : Prop where
  disabled :
    settings.corsEnabled = false → policy = .anyone
  listed :
    settings.corsEnabled = true →
      (∃ o ∈ settings.corsOrigins, HttpHeader.Legal o) →
        ∀ origin,
          policy.Allows origin ↔
            origin ∈ settings.corsOrigins ∧
              HttpHeader.Legal origin
  initial :
    settings.corsEnabled = true →
      (∀ o ∈ settings.corsOrigins, ¬ HttpHeader.Legal o) →
        ∀ origin,
          policy.Allows origin ↔
            origin = ServerSettings.defaultOrigin

/- Without the sign for every origin there is a policy. -/
theorem exists_follows
    {settings : ServerSettings}
    (hOrigins :
      settings.corsEnabled = true →
        wildcard ∉ settings.corsOrigins) :
    ∃ policy,
      ofSettings? settings = some policy ∧
        policy.Follows settings := by
  cases hEnabled : settings.corsEnabled with
  | false =>
      refine
        ⟨_, ofSettings?_of_disabled hEnabled, ?_⟩
      exact
        { disabled := fun _ => rfl
          listed := by simp [hEnabled]
          initial := by simp [hEnabled] }
  | true =>
      by_cases hLegal :
          ∃ o ∈ settings.corsOrigins, HttpHeader.Legal o
      · refine
          ⟨_, ofSettings?_of_exists_legal hEnabled
            hLegal (hOrigins hEnabled), ?_⟩
        refine ⟨by simp [hEnabled], ?_, ?_⟩
        · intro _ _ origin
          rw [allows_listed_iff, List.mem_filter,
            HttpHeader.isLegal_iff]
        · intro _ hNone
          rcases hLegal with ⟨o, hMem, hSome⟩
          exact absurd hSome (hNone o hMem)
      · have hNone :
            ∀ o ∈ settings.corsOrigins,
              ¬ HttpHeader.Legal o :=
          fun o hMem hSome => hLegal ⟨o, hMem, hSome⟩
        refine
          ⟨_, ofSettings?_of_no_legal hEnabled
            hNone, ?_⟩
        refine ⟨by simp [hEnabled], ?_, ?_⟩
        · exact fun _ hSome => absurd hSome hLegal
        · exact fun _ _ =>
            allows_single_iff (by decide)

end CrossOrigin

end Dashboard

------------------------------------------------------------
-- Starting
------------------------------------------------------------

namespace Dashboard

/- The settings with other origins. -/
def Settings.withOrigins
    (settings : Settings)
    (origins : List String) : Settings :=
  { settings with
    server := { settings.server with corsOrigins := origins } }

/- The check does not look at origins. -/
theorem Settings.check_withOrigins
    (settings : Settings)
    (origins : List String) :
    (settings.withOrigins origins).check = settings.check :=
  rfl

namespace Server

/- A server starts exactly if its settings have a policy. -/
theorem ofState_of_policy
    {state : ServerState}
    {policy : CrossOrigin}
    (hPolicy :
      CrossOrigin.ofSettings? state.settings.server =
        some policy) :
    ∃ server,
      ofState state = .ok server ∧
        server.crossOrigin = policy := by
  unfold ofState
  dsimp only
  rw [hPolicy]
  exact ⟨_, rfl, rfl⟩

theorem ofState_of_no_policy
    {state : ServerState}
    (hNone :
      CrossOrigin.ofSettings? state.settings.server = none) :
    ofState state = .error .wildcardOrigin := by
  unfold ofState
  dsimp only
  rw [hNone]

end Server

end Dashboard

------------------------------------------------------------
-- Main Result
------------------------------------------------------------

namespace Dashboard

namespace Server

/-
  Settings that pass the check pass it with any origins.  The
  server does not start with them if origins are checked and
  the sign for every origin is listed.  Otherwise it starts,
  and the allowed origins are the legal ones of the list, or
  the initial one if there is none.
-/
theorem ofState_withOrigins
    {settings : Settings}
    (hCheck : settings.check = .ok ())
    (origins : List String)
    {state : ServerState}
    (hState : state.settings = settings.withOrigins origins) :
    (settings.withOrigins origins).check = .ok () ∧
      (ofState state = .error .wildcardOrigin ↔
        settings.server.corsEnabled = true ∧
          CrossOrigin.wildcard ∈ origins) ∧
      ((settings.server.corsEnabled = true →
          CrossOrigin.wildcard ∉ origins) →
        ∃ server,
          ofState state = .ok server ∧
            server.crossOrigin.Follows
              (settings.withOrigins origins).server) := by
  have hStarts :
      (settings.server.corsEnabled = true →
          CrossOrigin.wildcard ∉ origins) →
        ∃ server,
          ofState state = .ok server ∧
            server.crossOrigin.Follows
              (settings.withOrigins origins).server := by
    intro hOrigins
    rcases @CrossOrigin.exists_follows
        (settings.withOrigins origins).server hOrigins with
      ⟨policy, hPolicy, hFollows⟩
    rw [← hState] at hPolicy
    rcases ofState_of_policy hPolicy with
      ⟨server, hServer, rfl⟩
    exact ⟨server, hServer, hFollows⟩
  refine ⟨?_, ⟨?_, ?_⟩, hStarts⟩
  · rw [Settings.check_withOrigins, hCheck]
  · intro hError
    by_contra hOther
    rw [not_and] at hOther
    rcases hStarts hOther with ⟨server, hServer, _⟩
    rw [hServer] at hError
    cases hError
  · rintro ⟨hEnabled, hWildcard⟩
    apply ofState_of_no_policy
    rw [hState]
    exact
      CrossOrigin.ofSettings?_of_wildcard hEnabled hWildcard

/- A state with the initial settings and these origins. -/
def sampleState (origins : List String) : ServerState where
  settings := Settings.initial.withOrigins origins
  service := ⟨.disabled, .standard⟩
  hosted := .disabled
  store := .bundled
  observed := false
  counters := []

/-
  The sign for every origin is accepted and keeps the server
  from starting.  A broken origin does not, and is left out.
-/
theorem ofState_withOrigins_sample :
    (Settings.initial.check = .ok () ∧
        (sampleState ["*"]).settings =
          Settings.initial.withOrigins ["*"]) ∧
      (Settings.initial.withOrigins ["*"]).check = .ok () ∧
        ofState (sampleState ["*"]) =
          .error .wildcardOrigin ∧
        ∃ server,
          ofState (sampleState ["http://a", "b\n"]) =
              .ok server ∧
            server.crossOrigin.Allows "http://a" ∧
              ¬ server.crossOrigin.Allows "b\n" := by
  have hCheck : Settings.initial.check = .ok () := by
    rw [Settings.check_eq_ok_iff]
    exact Settings.valid_initial
  have hEnabled : Settings.initial.server.corsEnabled = true :=
    rfl
  have hLegal : HttpHeader.Legal "http://a" := by
    rw [← HttpHeader.isLegal_iff]
    decide
  have hBroken : ¬ HttpHeader.Legal "b\n" := by
    rw [← HttpHeader.isLegal_iff]
    decide
  have hState :
      ∀ origins,
        (sampleState origins).settings =
          Settings.initial.withOrigins origins :=
    fun _ => rfl
  rcases ofState_withOrigins hCheck ["*"] (hState _) with
    ⟨hAccepted, hAborts, _⟩
  rcases ofState_withOrigins hCheck ["http://a", "b\n"]
      (hState _) with
    ⟨_, _, hStarts⟩
  rcases hStarts fun _ => by decide with
    ⟨server, hServer, hFollows⟩
  have hAllows :=
    hFollows.listed hEnabled
      ⟨"http://a", List.mem_cons_self, hLegal⟩
  refine
    ⟨⟨hCheck, rfl⟩, hAccepted,
      hAborts.mpr ⟨hEnabled, List.mem_cons_self⟩,
      server, hServer, ?_, ?_⟩
  · exact (hAllows _).mpr ⟨List.mem_cons_self, hLegal⟩
  · exact fun h => hBroken ((hAllows _).mp h).2

end Server

end Dashboard
