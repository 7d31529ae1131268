import MarketingFlow.Proofs.Http.Body
import MarketingFlow.Proofs.Service.Attempts
import MarketingFlow.Proofs.Service.Parts

/-!
# Refusals in a build

All requests of a build through the service are made under retry, but for the search for templates.
A refusal is taken for a passing failure in two cases: images are uploaded again after any failure,
and the text of the service may name a passing failure in the message. In all other cases the
operation is not called again.
-/

namespace MarketingFlow

open Program

variable {σ α : Type}

theorem Task.Heedful.silent {t : Task σ α} (h : ∀ s, ∃ x, t.start s = .done x) : t.Heedful := by
  intro s
  obtain ⟨x, hx⟩ := h s
  rw [hx]
  exact .done x

def Task.Habit.heedful : Task.Habit where
  Has := Task.Heedful
  silent := .silent
  log _ _ := .quiet (.ask fun _ => by simp)
  sleep _ := .quiet (.ask fun _ => by simp)
  bind := .bind
  result h s := (h s).bind fun _ => .done _
  within h s := (h _).bind fun _ => .done _

theorem Client.heedful_templateForMessage (c : Client) (messageId : Json) :
    (c.templateForMessage messageId : Task σ Json).Heedful :=
  fun _ _ _ _ _ _ h _ => .inl ⟨σ, c, messageId, ⟨.self h⟩⟩

namespace Creator

variable (k : Creator)

theorem heedful_retry {t : Task σ α} {o : RetryOptions Number}
    (h : t.GivesIn Request.UploadsNoImage) (ho : o.retryable = RetryOptions.transient)
    (label : String) : (t.retry label o).Heedful := by
  refine .retry h ?_ (.inr ho) label
  exact fun r hr => iff_of_false hr (by simp [ho, RetryOptions.transient])

theorem heedful_call {t : Work α} (h : t.GivesIn Request.UploadsNoImage) (label : String)
    (attempts : Int) : (call t label attempts).Heedful :=
  heedful_retry h rfl label

theorem retries_load {loader : Task σ Json} (h : loader.GivesIn Request.UploadsNoImage) :
    Task.Habit.heedful.Retries directoryRetry loader :=
  fun _ _ label => heedful_retry h.within rfl label

theorem retries_upload {upload : Task σ Json} (h : upload.GivesIn Request.UploadsImage) :
    Task.Habit.heedful.Retries Email.Uploads.standardRetry upload :=
  fun _ _ label => .retry h.within (fun _ hr => iff_of_true hr rfl) (.inl rfl) label

theorem follows_heedful : k.Follows .heedful where
  image _ := retries_upload (k.client.givesIn_imageFromFile _ _)
  metrics := retries_load (.bind k.client.givesIn_metrics fun _ => .pure _)
  lists := retries_load (.bind k.client.givesIn_lists fun _ => .pure _)
  createTemplate _ _ := heedful_call (k.client.givesIn_createTemplate _ _)
  updateTemplate _ _ _ := heedful_call (k.client.givesIn_updateTemplate _ _ _)
  flowActions _ := heedful_call (k.client.givesIn_flowActions _)
  messages _ := heedful_call (k.client.givesIn_flowActionMessages _)
  template := k.client.heedful_templateForMessage

theorem heedful_build (f : Flow) : (k.build f).Heedful :=
  has_build k.follows_heedful.keeps (heedful_call k.client.givesIn_ping)
    (fun _ => heedful_call (k.client.givesIn_createFlow _)) f

/-- A refusal in a build falls into the search for a template or into an operation under retry. That
operation raises it, and it is called again exactly if another attempt is due. -/
theorem heeds_refusal {k : Creator} {f : Flow} {m : Memory} {t : List (Event World)} {r : Request}
    {status : Int} {text : String} {q : Program World (Except Failure BuildResult × Memory)}
    {failure : Failure}
    (h : Reaches ((k.build f).start m) (t ++ [⟨.send r, .answer status text⟩]) q)
    (hstatus : status ∈ [400, 401, 403, 409, 422])
    (hfailure : Client.resultOf (r.method ++ " " ++ r.path) r (.answer status text) =
      .error failure)
    (hforeseen : failure.foreseen = true) :
    failure.isPermanent = true ∧
      (Searches ((k.build f).start m) t ⟨.send r, .answer status text⟩ ∨
        ∃ a : Attempt ((k.build f).start m) t ⟨.send r, .answer status text⟩,
          a.Heeds r failure) := by
  have hrefusal := Event.refusal?_eq_some.mpr ⟨status, text, rfl, hstatus, hforeseen, hfailure⟩
  obtain ⟨-, hpermanent, -⟩ := Event.resultOf_of_refusal hrefusal
  exact ⟨hpermanent, k.heedful_build f m t r _ q failure h hrefusal⟩

/-- An outside where the service refuses to create anything, in words that name a passing
failure. -/
def refusing : (c : World.Call) → World.Answer c
  | .send r =>
    Reply.answer (if r.method = "GET" then 201 else 400)
      (if r.method = "GET" then "" else
        "\x7b\"errors\":[\x7b\"detail\":\"No server-error here\"\x7d]\x7d")
  | c => World.smooth c

theorem greeting_refused :
    ∃ t r status text q failure,
      Reaches ((nearby.build .greeting).start .empty) (t ++ [⟨.send r, .answer status text⟩]) q ∧
      status ∈ [400, 401, 403, 409, 422] ∧
      Client.resultOf (r.method ++ " " ++ r.path) r (.answer status text) = .error failure ∧
      failure.foreseen = true ∧ Text.contains failure.message "server-error" = true ∧
      failure.isPermanent = true ∧
      (Searches ((nearby.build .greeting).start .empty) t ⟨.send r, .answer status text⟩ ∨
        ∃ a : Attempt ((nearby.build .greeting).start .empty) t ⟨.send r, .answer status text⟩,
          a.Heeds r failure) := by
  have hrun := Program.reaches_record refusing 8 ((nearby.build .greeting).start .empty)
  have hlast : (((Program.record refusing 8
      ((nearby.build .greeting).start .empty)).1.getLast?.bind Event.refusal?).any
        fun failure => Text.contains failure.message "server-error") = true := by
    simp only [build, nearby, precreate, Payload.ofFlow, Flow.traverse_greeting, create,
      Client.createFlow, Client.send, Client.request, Content.toBody_document]
    decide +kernel
  obtain ⟨failure, hfailure, hnamed⟩ := (Option.any_eq_true _ _).mp hlast
  obtain ⟨⟨c, reply⟩, he, hrefusal⟩ := Option.bind_eq_some_iff.mp hfailure
  rw [← List.dropLast_append_getLast? _ he] at hrun
  cases c with
  | send r =>
    obtain ⟨status, text, rfl, hstatus, hforeseen, hresult⟩ := Event.refusal?_eq_some.mp hrefusal
    exact ⟨_, r, status, text, _, failure, hrun, hstatus, hresult, hforeseen, hnamed,
      heeds_refusal hrun hstatus hresult hforeseen⟩
  | _ => cases hrefusal

end Creator

end MarketingFlow
