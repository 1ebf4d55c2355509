import OrbitBhyve.Entry.SetupRuns

/-!
# The credentials of an entry

A user types passwords into the reconfigure flow and into the reauth flow, and
the cloud is asked with what is stored or with what was typed. Clouds may change
their mind from one request to the next. What is stored has always been accepted
by a login, under the email the entry was made with.
-/

namespace OrbitBhyve.Entry

open Cloud Foundation Python

def Accepts (cloud : Server) (email password : String) : Prop :=
  ∃ body client, login cloud email password {} = .ok body client

/-- How `discover` of a new client ends, the ids of its devices being texts. -/
def Answers (cloud : Server) (email password : String) (r : Response) : Prop :=
  match result (discover cloud email password) {} with
  | .error e => r = .error e
  | .ok records => ∃ discovered, r = .ok discovered ∧ records.map recordOf = discovered.map some

structure Console where
  account : Account
  /-- `self._email` of the open reconfigure flow. -/
  flowEmail : String
  /-- `self._email` of the open reauth flow. -/
  reauthEmail : Option String := none

inductive Move where
  | refresh (cloud : Server) (r : Response)
  | reconfigure
  | discovered (cloud : Server) (r : Response)
  | enterPassword (password : String)
  | submit (included : List String)
  | close
  /-- `async_step_reauth`, which shows its form. -/
  | reauth
  /-- A submit of that form. -/
  | confirm (cloud : Server) (password : String)

def Move.cloud : Move → Option Server
  | .refresh cloud _ | .discovered cloud _ | .confirm cloud _ => some cloud
  | _ => none

/-- The reauth flow in its finish path. -/
def EntryData.reauthenticate (password : String) (d : EntryData) : EntryData :=
  { d with password := password }

/-- `async_step_reauth_confirm` on a submit; a login which fails leaves the form. -/
def Console.confirm (cloud : Server) (password : String) (s : Console) : Console :=
  match s.reauthEmail with
  | none => s
  | some email =>
    match login cloud (if email = "" then s.account.data.email else email) password {} with
    | .error _ _ => s
    | .ok _ _ =>
      { s with
        account := { s.account with data := s.account.data.reauthenticate password }
        reauthEmail := none }

def Console.step (s : Console) : Move → Console
  | .refresh _ r => { s with account := s.account.step (.refresh r) }
  | .reconfigure =>
    { s with account := s.account.step .reconfigure, flowEmail := s.account.data.email }
  | .discovered _ r => { s with account := s.account.step (.discovered r) }
  | .enterPassword password => { s with account := s.account.step (.enterPassword password) }
  | .submit included => { s with account := s.account.step (.submit included) }
  | .close => { s with account := s.account.step .close }
  | .reauth => { s with reauthEmail := some s.account.data.email }
  | .confirm cloud password => s.confirm cloud password

/-- A response is what the cloud replies to the credentials it is asked with: the stored ones
for a refresh, those of the flow for a flow. -/
def Console.Honest (s : Console) : Move → Prop
  | .refresh cloud r => s.account.data.hasCredentials = true →
      Answers cloud s.account.data.email s.account.data.password r
  | .discovered cloud r => ∀ f, s.account.flow = some f →
      Answers cloud s.flowEmail f.password r
  | _ => True

def Account.console (a : Account) : Console := ⟨a, a.data.email, none⟩

/-! ## One request -/

theorem accepts_of_answers {cloud : Server} {email password : String}
    {discovered : List DeviceRecord} (h : Answers cloud email password (.ok discovered)) :
    Accepts cloud email password := by
  unfold Answers result at h
  cases hrun : discover cloud email password {} with
  | error e client =>
    rw [hrun] at h
    cases h
  | ok records client =>
    obtain ⟨body, client', hlogin, -⟩ := run_bind_eq_ok.mp hrun
    exact ⟨body, client', hlogin⟩

/-- Whom a cloud lets in: its reply to the login carries a key. -/
theorem accepts_iff (cloud : Server) (email password : String) :
    Accepts cloud email password ↔
      ∃ resp body, cloud [] ⟨.session email password, loginHeaders⟩ = .ok resp ∧
        resp.status < 400 ∧ resp.json = .ok (.dict body) ∧
        (Dict.lookup body "orbit_api_key").truthy = true := by
  unfold Accepts
  rw [run_login]
  dsimp only
  cases cloud [] ⟨.session email password, loginHeaders⟩ with
  | error e => exact iff_of_false (by rintro ⟨_, _, h⟩; cases h) (by rintro ⟨_, _, h, -⟩; cases h)
  | ok resp =>
    dsimp only
    constructor
    · rintro ⟨body, client, h⟩
      split_ifs at h
      split at h
      · cases h
      · next body' hbody =>
        split_ifs at h with htoken
        obtain ⟨value, hread, hdict⟩ := except_bind_eq_ok hbody
        unfold HttpResponse.read at hread
        split_ifs at hread with hstatus
        cases hjson : resp.json with
        | error e =>
          rw [hjson] at hread
          cases hread
        | ok v =>
          rw [hjson] at hread
          cases hread
          cases value with
          | dict items =>
            cases hdict
            exact ⟨resp, _, rfl, Nat.lt_of_not_le hstatus, hjson, htoken⟩
          | _ => cases hdict
    · rintro ⟨_, body, heq, hstatus, hjson, htoken⟩
      cases heq
      have hread : (resp.read >>= fun body => uncaught (asDict body)) = .ok body := by
        unfold HttpResponse.read
        rw [if_neg (Nat.not_le.mpr hstatus), hjson]
        rfl
      have hin : resp.status ∉ [400, 401, 403] := by
        simp only [List.mem_cons, List.not_mem_nil, or_false]
        omega
      rw [if_neg hin, hread]
      dsimp only
      rw [if_pos htoken]
      exact ⟨_, _, rfl⟩

/-! ## The invariant -/

variable {clouds : List Server} {email : String}

/-- One of the clouds has let these credentials in. -/
def Vouched (clouds : List Server) (email password : String) : Prop :=
  ∃ cloud ∈ clouds, Accepts cloud email password

/-- Every email is the one of the entry, and a password which is stored, or which an accepted
picker would store, has been let in. -/
structure Console.Credible (clouds : List Server) (email : String) (s : Console) : Prop where
  entryEmail : s.account.data.email = email
  stored : Vouched clouds email s.account.data.password
  flow : ∀ f, s.account.flow = some f →
    s.flowEmail = email ∧ (f.stage = .picking → Vouched clouds email f.password)
  reauth : ∀ e, s.reauthEmail = some e → e = email

theorem ReconfigureFlow.password_resume {f f' : ReconfigureFlow} {r : Response}
    (h : f.resume r = some f') :
    f'.password = f.password ∧
      (f'.stage = .picking → f.stage = .picking ∨ ∃ discovered, r = .ok discovered) := by
  unfold ReconfigureFlow.resume at h
  split at h
  · cases h
  · cases h
    exact ⟨rfl, fun _ => .inr ⟨_, rfl⟩⟩
  · cases h
    exact ⟨rfl, fun hstage => by cases hstage⟩
  · cases h
  · cases h
    exact ⟨rfl, fun hstage => by cases hstage⟩
  · cases h
    exact ⟨rfl, fun _ => .inr ⟨_, rfl⟩⟩
  · cases h
    exact ⟨rfl, fun hstage => by cases hstage⟩
  · cases h
    exact ⟨rfl, .inl⟩

theorem credentials_asyncRefreshEntry (r : Response) (d : EntryData) :
    (asyncRefreshEntry r d).email = d.email ∧ (asyncRefreshEntry r d).password = d.password := by
  obtain ⟨discovered, -, -, heq⟩ | ⟨-, heq⟩ := asyncRefreshEntry_cases r d
  · rw [heq]
    exact ⟨rfl, rfl⟩
  · rw [heq]
    exact ⟨rfl, rfl⟩

namespace Console.Credible

variable {s : Console} (h : s.Credible clouds email)
include h

theorem refresh (cloud : Server) (r : Response) :
    (s.step (.refresh cloud r)).Credible clouds email := by
  obtain ⟨hemail, hpassword⟩ := credentials_asyncRefreshEntry r s.account.data
  exact ⟨hemail.trans h.entryEmail, hpassword ▸ h.stored, h.flow, h.reauth⟩

theorem reconfigure : (s.step .reconfigure).Credible clouds email := by
  refine ⟨h.entryEmail, h.stored, fun f hf => ⟨h.entryEmail, fun hstage => ?_⟩, h.reauth⟩
  cases hf
  exact h.stored

theorem discovered {cloud : Server} {r : Response} (hhonest : s.Honest (.discovered cloud r))
    (hcloud : cloud ∈ clouds) : (s.step (.discovered cloud r)).Credible clouds email := by
  refine ⟨h.entryEmail, h.stored, fun f' hf' => ?_, h.reauth⟩
  obtain ⟨f, hf, hresume⟩ := Option.bind_eq_some_iff.mp hf'
  obtain ⟨hflowEmail, hpicking⟩ := h.flow f hf
  obtain ⟨hpassword, hstage⟩ := ReconfigureFlow.password_resume hresume
  refine ⟨hflowEmail, fun hpicks => ?_⟩
  rw [hpassword]
  obtain hpicked | ⟨found, rfl⟩ := hstage hpicks
  · exact hpicking hpicked
  · exact ⟨cloud, hcloud, accepts_of_answers (hflowEmail ▸ hhonest f hf)⟩

theorem enterPassword (password : String) :
    (s.step (.enterPassword password)).Credible clouds email := by
  refine ⟨h.entryEmail, h.stored, fun f' hf' => ?_, h.reauth⟩
  obtain ⟨f, hf, rfl⟩ := Option.map_eq_some_iff.mp hf'
  obtain ⟨hflowEmail, hpicking⟩ := h.flow f hf
  refine ⟨hflowEmail, fun hpicks => ?_⟩
  unfold ReconfigureFlow.enterPassword at hpicks ⊢
  split_ifs at hpicks ⊢
  exact hpicking hpicks

theorem submit (included : List String) : (s.step (.submit included)).Credible clouds email := by
  have hstep : (s.step (.submit included)).account = s.account.step (.submit included) := rfl
  obtain ⟨f, hpicker, -, hsubmit⟩ | ⟨-, hsame⟩ := s.account.submit_cases included
  · obtain ⟨f', hflow, hpicks⟩ := Option.bind_eq_some_iff.mp hpicker
    split_ifs at hpicks with hstage
    cases hpicks
    rw [hsubmit] at hstep
    refine ⟨by rw [hstep]; exact h.entryEmail, ?_, fun f' hf' => ?_, h.reauth⟩
    · rw [hstep]
      exact (h.flow f hflow).2 hstage
    · rw [hstep] at hf'
      cases hf'
  · rw [hsame] at hstep
    exact ⟨hstep ▸ h.entryEmail, hstep ▸ h.stored, hstep ▸ h.flow, h.reauth⟩

theorem confirm {cloud : Server} (hcloud : cloud ∈ clouds) (password : String) :
    (s.step (.confirm cloud password)).Credible clouds email := by
  change (s.confirm cloud password).Credible clouds email
  unfold Console.confirm
  cases hreauth : s.reauthEmail with
  | none => exact h
  | some e =>
    dsimp only
    have hasked : (if e = "" then s.account.data.email else e) = email := by
      split_ifs
      · exact h.entryEmail
      · exact h.reauth e hreauth
    rw [hasked]
    cases hlogin : login cloud email password {} with
    | error e client => exact h
    | ok body client =>
      exact ⟨h.entryEmail, ⟨cloud, hcloud, body, client, hlogin⟩, h.flow, fun e he => by cases he⟩

theorem step {m : Move} (hhonest : s.Honest m) (hcloud : ∀ c, m.cloud = some c → c ∈ clouds) :
    (s.step m).Credible clouds email := by
  cases m with
  | refresh cloud r => exact h.refresh cloud r
  | reconfigure => exact h.reconfigure
  | discovered cloud r => exact h.discovered hhonest (hcloud cloud rfl)
  | enterPassword password => exact h.enterPassword password
  | submit included => exact h.submit included
  | close => exact ⟨h.entryEmail, h.stored, fun f hf => (by cases hf), h.reauth⟩
  | reauth =>
    refine ⟨h.entryEmail, h.stored, h.flow, fun e he => ?_⟩
    cases he
    exact h.entryEmail
  | confirm cloud password => exact h.confirm (hcloud cloud rfl) password

end Console.Credible

/-- Over any history of refreshes, reconfigure flows and reauth flows, in any order and against
any clouds, the email of an entry is the one it was made with, and its password is one which a
login with that email was let in with: a password which was only typed is never stored. -/
theorem stored_password_vouched {cloud : Server} {password : String}
    {discovered : List DeviceRecord} {included : List String} {a : Account}
    (hdiscover : Answers cloud email password (.ok discovered))
    (hcreated : Account.created email password discovered included = some a) {ms : List Move}
    (hms : StepsMeet Console.step Console.Honest a.console ms) :
    let data := (run Console.step a.console ms).account.data
    data.email = email ∧ Vouched (cloud :: ms.filterMap Move.cloud) email data.password := by
  have hstart : a.console.Credible (cloud :: ms.filterMap Move.cloud) email := by
    obtain rfl := Account.created_some hcreated
    exact ⟨rfl, ⟨cloud, List.mem_cons_self, accepts_of_answers hdiscover⟩,
      fun f hf => (by cases hf), fun e he => (by cases he)⟩
  have hclouds : ∀ m ∈ ms, ∀ c, m.cloud = some c → c ∈ cloud :: ms.filterMap Move.cloud :=
    fun m hm c hc => List.mem_cons_of_mem _ (List.mem_filterMap.mpr ⟨m, hm, hc⟩)
  have hstep : ∀ (s : Console) (m : Move), s.Credible (cloud :: ms.filterMap Move.cloud) email →
      (s.Honest m ∧ ∀ c, m.cloud = some c → c ∈ cloud :: ms.filterMap Move.cloud) →
      (s.step m).Credible (cloud :: ms.filterMap Move.cloud) email :=
    fun _ _ hs hok => hs.step hok.1 hok.2
  have hrun := run_invariant hstep hstart (hms.and (StepsMeet.of_forall hclouds _))
  exact ⟨hrun.entryEmail, hrun.stored⟩

def changedPassword : Server := fun sent r =>
  match r.endpoint with
  | .session _ password =>
    if password = "new" then oneMesh sent r else .ok ⟨401, .error .client⟩
  | _ => oneMesh sent r

/-- A refresh under the old password, a guess at the new one, then the new one. -/
def passwordChanged : List Move :=
  [.refresh changedPassword (.error .auth), .reauth, .confirm changedPassword "guess",
    .confirm changedPassword "new"]

theorem stored_password_vouched_changed : ∃ a,
    Account.created "me@example.com" "secret" [oneMeshRecord "a", oneMeshRecord "b"] ["a"] =
      some a ∧
    (run Console.step a.console passwordChanged).account.data.password = "new" ∧
    Vouched [oneMesh, changedPassword, changedPassword, changedPassword] "me@example.com" "new" := by
  obtain ⟨a, ha, hpassword, hhonest⟩ : ∃ a,
      Account.created "me@example.com" "secret" [oneMeshRecord "a", oneMeshRecord "b"] ["a"] =
        some a ∧
      (run Console.step a.console passwordChanged).account.data.password = "new" ∧
      StepsMeet Console.step Console.Honest a.console passwordChanged :=
    ⟨_, rfl, rfl, fun _ => rfl, trivial, trivial, trivial, trivial⟩
  have hdiscover : Answers oneMesh "me@example.com" "secret"
      (.ok [oneMeshRecord "a", oneMeshRecord "b"]) := ⟨_, rfl, rfl⟩
  have hstored := (stored_password_vouched hdiscover ha hhonest).2
  rw [hpassword] at hstored
  exact ⟨a, ha, hpassword, hstored⟩

end OrbitBhyve.Entry
