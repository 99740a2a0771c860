/- Reading options and arguments. An option has a name after two dashes and may have a letter after one;
   letters may stand together. A value follows its option, after an equals sign or as the next argument,
   and after a letter also directly. Two dashes alone end the options. -/

set_option autoImplicit false

namespace ApiStubs.Command

structure Choice where
  name : String
  letter : Option Char := none
  takesValue : Bool := false
deriving DecidableEq

structure Reading where
  options : List (String × Option String)
  rest : List String
deriving DecidableEq

namespace Reading

def withOptions (options : List (String × Option String)) (r : Reading) : Reading :=
  { r with options := options ++ r.options }

def withArgument (argument : String) (r : Reading) : Reading :=
  { r with rest := argument :: r.rest }

def has (r : Reading) (name : String) : Bool :=
  r.options.any fun o => o.1 == name

def value? (r : Reading) (name : String) : Option String :=
  (r.options.reverse.lookup name).join

end Reading

-- What one argument gives: options, and the name of one whose value is the next argument.
structure Taken where
  options : List (String × Option String)
  wanting : Option String
deriving DecidableEq

def takeLetters (choices : List Choice) : List Char → Option Taken
  | [] => some ⟨[], none⟩
  | c :: rest =>
      match choices.find? fun o => o.letter == some c with
      | none => none
      | some choice =>
          if choice.takesValue then
            if rest.isEmpty then some ⟨[], some choice.name⟩
            else some ⟨[(choice.name, some (String.ofList rest))], none⟩
          else
            (takeLetters choices rest).map fun t => { t with options := (choice.name, none) :: t.options }

def givenValue (cs : List Char) : Option String :=
  match cs.dropWhile (· != '=') with
  | _ :: value => some (String.ofList value)
  | [] => none

def takeName (choices : List Choice) (cs : List Char) : Option Taken :=
  let name := String.ofList (cs.takeWhile (· != '='))
  match choices.find? fun o => o.name == name with
  | none => none
  | some choice =>
      match choice.takesValue, givenValue cs with
      | true, some value => some ⟨[(choice.name, some value)], none⟩
      | true, none => some ⟨[], some choice.name⟩
      | false, some _ => none
      | false, none => some ⟨[(choice.name, none)], none⟩

def takeOption (choices : List Choice) (cs : List Char) : Option Taken :=
  match cs with
  | '-' :: '-' :: _ => takeName choices cs
  | _ :: letters => takeLetters choices letters
  | [] => none

def looksLikeOption (cs : List Char) : Bool :=
  match cs with
  | '-' :: _ :: _ => true
  | _ => false

-- Reads arguments; `none` when an option is unknown, lacks its value or has one it does not take. When
-- options and arguments may not be mixed, the first argument ends the options.
def scan (choices : List Choice) (mixed : Bool) : List String → Option Reading
  | [] => some ⟨[], []⟩
  | argument :: rest =>
      if argument = "--" then some ⟨[], rest⟩
      else if looksLikeOption argument.toList then
        match takeOption choices argument.toList with
        | none => none
        | some ⟨options, none⟩ => (scan choices mixed rest).map (Reading.withOptions options)
        | some ⟨options, some name⟩ =>
            match rest with
            | [] => none
            | value :: rest =>
                (scan choices mixed rest).map (Reading.withOptions (options ++ [(name, some value)]))
      else if mixed then (scan choices mixed rest).map (Reading.withArgument argument)
      else some ⟨[], argument :: rest⟩

end ApiStubs.Command
