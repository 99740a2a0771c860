import ApiStubs.Response

/- Where the body of a response comes from: it is given in the document, or drawn for a schema that stands in it. What
   is read before anything is drawn does not hang on the generator. -/

set_option autoImplicit false

namespace ApiStubs.Response

inductive Origin where
  | given (v : Value)
  | drawn (location : String) (declared : Option Value) (schema : Value)

def Origin.draw (settings : Settings) (document : Value) : Origin → Drawing Value
  | .given v => pure v
  | .drawn location declared schema => Schema.synthesize settings document 0 location declared schema

def referredOrigin (pointer target : Value) : Origin :=
  match valueIn target with
  | some v => .given v
  | none => .drawn pointer.display none target

def declaredOrigin (settings : Settings) (document : Value) (location : String) (content : Entries) :
    Except Error Origin :=
  match (content.get? "example").bind Value.reference? with
  | some pointer => (Value.resolve document settings.maxReferenceDepth 0 pointer).map (referredOrigin pointer)
  | none => .ok (.drawn (Pointer.extendText location "schema") (content.get? "example") (content.get "schema"))

def contentOrigin (settings : Settings) (document : Value) (location : String) (content : Entries) :
    Except Error Origin :=
  match content.get "examples" with
  | .map ((_, first) :: _) => (bodyOfExamples settings document first).map .given
  | _ => declaredOrigin settings document location content

def mediaOrigin (settings : Settings) (document : Value) (location : String) : Value → Except Error Origin
  | .null => .ok (.given .null)
  | media => Shape.objectAt location media >>= contentOrigin settings document location

def originOf (settings : Settings) (document : Value) (location : String) (response : Entries) :
    Except Error Origin := do
  let contents ← Shape.objectAt (Pointer.extendText location "content") (response.get "content")
  mediaOrigin settings document (Pointer.extendText (Pointer.extendText location "content") settings.mediaType)
    (contents.get settings.mediaType)

-- A reading that ends in what is to be drawn, or in a failure.
def drawFrom (settings : Settings) (document : Value) (origin : Except Error Origin) : Drawing Value :=
  (liftM origin : Drawing Origin) >>= Origin.draw settings document

-- What is named goes before all else that a content declares.
def NamesExample (content : Entries) : Prop :=
  ∃ key first rest, content.get "examples" = .map ((key, first) :: rest)

-- The body of a response without named examples.
def declaredBody (settings : Settings) (document : Value) (location : String) (content : Entries) : Drawing Value :=
  match (content.get? "example").bind Value.reference? with
  | some pointer => do
      let target ← Value.resolve document settings.maxReferenceDepth 0 pointer
      match valueIn target with
      | some v => return v
      | none => Schema.synthesize settings document 0 pointer.display none target
  | none =>
      Schema.synthesize settings document 0 (Pointer.extendText location "schema") (content.get? "example")
        (content.get "schema")

section

variable (settings : Settings) (document : Value) (location : String)

theorem body_of_content_eq (content : Entries) :
    bodyOfContent settings document location content = match content.get "examples" with
      | .map ((_, first) :: _) => liftM (bodyOfExamples settings document first)
      | _ => declaredBody settings document location content :=
  rfl

theorem draw_from_bind {α : Type} (result : Except Error α) (next : α → Except Error Origin) :
    drawFrom settings document (result >>= next) =
      (liftM result : Drawing α) >>= fun a => drawFrom settings document (next a) := by
  funext g
  cases result <;> rfl

theorem draw_from_map {α : Type} (result : Except Error α) (origin : α → Origin) :
    drawFrom settings document (result.map origin) =
      (liftM result : Drawing α) >>= fun a => (origin a).draw settings document := by
  funext g
  cases result <;> rfl

theorem referred_origin_draws (pointer target : Value) :
    (match valueIn target with
      | some v => return v
      | none => Schema.synthesize settings document 0 pointer.display none target : Drawing Value) =
      (referredOrigin pointer target).draw settings document := by
  unfold referredOrigin
  cases valueIn target <;> rfl

theorem declared_origin_draws (content : Entries) :
    declaredBody settings document location content =
      drawFrom settings document (declaredOrigin settings document location content) := by
  unfold declaredBody declaredOrigin
  cases (content.get? "example").bind Value.reference? with
  | none => rfl
  | some pointer =>
      simp only [draw_from_map, ← referred_origin_draws]

theorem content_origin_draws (content : Entries) :
    bodyOfContent settings document location content =
      drawFrom settings document (contentOrigin settings document location content) := by
  have declared := declared_origin_draws settings document location content
  rw [body_of_content_eq]
  unfold contentOrigin
  cases content.get "examples" with
  | map entries =>
      cases entries with
      | nil => exact declared
      | cons entry rest =>
          simp only [draw_from_map]
          exact (bind_pure _).symm
  | _ => exact declared

theorem media_origin_draws (media : Value) :
    (match media with
      | .null => return .null
      | media => do
          let content ← Shape.objectAt location media
          bodyOfContent settings document location content : Drawing Value) =
      drawFrom settings document (mediaOrigin settings document location media) := by
  have drawn (media : Value) : (do
      let content ← Shape.objectAt location media
      bodyOfContent settings document location content : Drawing Value) =
        drawFrom settings document (Shape.objectAt location media >>= contentOrigin settings document location) := by
    rw [draw_from_bind]
    simp only [content_origin_draws]
  cases media with
  | null => rfl
  | _ => exact drawn _

theorem body_of_origin (response : Entries) :
    bodyOf settings document location response =
      drawFrom settings document (originOf settings document location response) := by
  have media (contents : Entries) := media_origin_draws settings document
    (Pointer.extendText (Pointer.extendText location "content") settings.mediaType) (contents.get settings.mediaType)
  unfold bodyOf originOf
  rw [draw_from_bind]
  exact congrArg (liftM (Shape.objectAt (Pointer.extendText location "content") (response.get "content")) >>= ·)
    (funext media)

end

end ApiStubs.Response
