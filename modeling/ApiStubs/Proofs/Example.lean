import ApiStubs.Proofs.Origin
import ApiStubs.Proofs.Schema.Form

/- Declared examples of contents. The body of a response that shows an example is that example, whatever else its
   content says, and nothing is drawn for it. -/

set_option autoImplicit false

namespace ApiStubs

namespace Schema

-- An example is taken as it is as soon as there is a level left for it.
theorem declared_still {settings : Settings} {document declared schema body : Value} {depth : Int} {location : String}
    {g h : Generator} (drawn : synthesize settings document depth location (some declared) schema g = .ok (body, h)) :
    ∀ k, synthesize settings document depth location (some declared) schema k = .ok (declared, k) := by
  unfold synthesize at drawn ⊢
  cases levels : (settings.maxSchemaDepth + 1 - depth).toNat with
  | zero =>
      rw [levels] at drawn
      cases drawn
  | succ levels =>
      intro k
      rw [synthesize_declared]
      rfl

end Schema

namespace Response

-- The example of a content: the first named one, else what its own refers to, else its own.
inductive Shown (settings : Settings) (document : Value) (content : Entries) (v : Value) : Prop where
  | named {key first : Value} {rest entries : Entries}
      (listed : content.get "examples" = .map ((key, first) :: rest))
      (resolved : Value.resolved document settings.maxReferenceDepth first = .ok (.map entries))
      (found : entries.get? "value" = some v)
  | referred {shown pointer : Value} {entries : Entries} (unnamed : ¬ NamesExample content)
      (declared : content.get? "example" = some shown) (points : shown.reference? = some pointer)
      (resolved : Value.resolve document settings.maxReferenceDepth 0 pointer = .ok (.map entries))
      (found : entries.get? "value" = some v)
  | own (unnamed : ¬ NamesExample content) (declared : content.get? "example" = some v) (plain : v.reference? = none)

-- What a response holds in the media type of the settings.
def Offers (settings : Settings) (response content : Entries) : Prop :=
  ∃ contents : Entries, response.get "content" = .map contents ∧ contents.get settings.mediaType = .map content

section

variable {settings : Settings} {document v : Value} {content : Entries}

theorem origin_unnamed (location : String) (unnamed : ¬ NamesExample content) :
    contentOrigin settings document location content = declaredOrigin settings document location content := by
  unfold contentOrigin
  split
  · next key first rest listed => exact absurd ⟨key, first, rest, listed⟩ unnamed
  · rfl

theorem shown_origin (location : String) (shown : Shown settings document content v) :
    contentOrigin settings document location content = .ok (.given v) ∨
      ∃ place schema, contentOrigin settings document location content = .ok (.drawn place (some v) schema) := by
  cases shown with
  | named listed resolved found =>
      left
      simp only [contentOrigin, listed, bodyOfExamples, resolved, bind, Except.bind, pure, Except.pure, Except.map]
      rw [Entries.get, found, Option.getD_some]
  | referred unnamed declared points resolved found =>
      left
      rw [origin_unnamed location unnamed]
      simp only [declaredOrigin, declared, Option.bind_some, points, resolved, Except.map, referredOrigin, valueIn, found]
  | own unnamed declared plain =>
      right
      rw [origin_unnamed location unnamed]
      simp only [declaredOrigin, declared, Option.bind_some, plain]
      exact ⟨_, _, rfl⟩

theorem offered_origin {response : Entries} (location : String) (offers : Offers settings response content) :
    ∃ place, originOf settings document location response = contentOrigin settings document place content := by
  obtain ⟨contents, held, media⟩ := offers
  refine ⟨Pointer.extendText (Pointer.extendText location "content") settings.mediaType, ?_⟩
  simp only [originOf, held, Shape.objectAt, media, mediaOrigin, bind, Except.bind]

theorem shown_body {response : Entries} {location : String} {body : Value} {g h : Generator}
    (offers : Offers settings response content) (shown : Shown settings document content v)
    (drawn : bodyOf settings document location response g = .ok (body, h)) :
    ∀ k, bodyOf settings document location response k = .ok (v, k) := by
  obtain ⟨place, origin⟩ := offered_origin location offers
  rw [body_of_origin, origin] at drawn ⊢
  rcases shown_origin place shown with given | ⟨place, schema, declared⟩
  · rw [given]
    exact fun _ => rfl
  · rw [declared] at drawn ⊢
    exact Schema.declared_still drawn

end

end Response

end ApiStubs
