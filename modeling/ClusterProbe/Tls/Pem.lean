import ClusterProbe.Text.Quoted
import ClusterProbe.Text.Utf8
import ClusterProbe.Tls.Base64

/-!
# PEM files

Texts with labelled sections of base64. Whatever stands outside of sections is passed over, and so
are sections with a label that means nothing here. Reading stops at the first malformed section.
-/
namespace ClusterProbe.Pem

inductive Label where
  | certificate | publicKey | rsaPrivateKey | privateKey | ecPrivateKey | revocationList | request
  deriving DecidableEq, Repr

namespace Label

def all : List Label :=
  [certificate, publicKey, rsaPrivateKey, privateKey, ecPrivateKey, revocationList, request]

def name : Label → String
  | certificate => "CERTIFICATE"
  | publicKey => "PUBLIC KEY"
  | rsaPrivateKey => "RSA PRIVATE KEY"
  | privateKey => "PRIVATE KEY"
  | ecPrivateKey => "EC PRIVATE KEY"
  | revocationList => "X509 CRL"
  | request => "CERTIFICATE REQUEST"

def ofName? (name : Bytes) : Option Label :=
  all.find? fun l => Utf8.encode l.name == name

end Label

inductive Error where
  | missingEnd (label : Bytes)
  | illegalStart (line : Bytes)
  | base64 (error : Base64.DecodeError)
  deriving DecidableEq, Repr

namespace Error

def message : Error → String
  | missingEnd label => s!"section end {Text.quoted (Utf8.decodeLossy label)} missing"
  | illegalStart line => s!"illegal section start: {Text.quoted (Utf8.decodeLossy line)}"
  | base64 error => error.message

end Error

structure Section where
  label : Label
  content : Bytes
  deriving DecidableEq, Repr

def isLineEnd (b : UInt8) : Bool :=
  b == 10 || b == 13

/-- The lines of a text, each with its line end. -/
def lines : Bytes → List Bytes
  | [] => []
  | b :: bs =>
    if isLineEnd b then [b] :: lines bs
    else match lines bs with
      | [] => [[b]]
      | line :: rest => (b :: line) :: rest

def dashes : Bytes := Utf8.encode "-----"

/-- The label in a line that starts a section, and nothing in any other line. The label is followed
by five dashes. -/
def startLabel? (line : Bytes) : Option (Except Error Bytes) :=
  let lead := Utf8.encode "-----BEGIN "
  if lead.isPrefixOf line then
    let dash := (45 : UInt8)
    let tail := line.reverse.takeWhile fun b => b == dash || isLineEnd b || b == 32
    if tail.count dash = 5 then
      let ending := (tail.reverse.dropWhile (· != dash)).length
      some (.ok ((line.take (line.length - ending)).drop lead.length))
    else some (.error (.illegalStart line))
  else none

def endsSection (label line : Bytes) : Bool :=
  (Utf8.encode "-----END " ++ label ++ dashes).isPrefixOf line

/-- The sections in some lines, up to the first error; `opened` is the label of the section that the
lines start in, and `content` what has been gathered. -/
def sectionsFrom (opened : Option Bytes) (content : Bytes) :
    List Bytes → List (Except Error Section)
  | [] => (opened.map fun label => .error (.missingEnd label)).toList
  | line :: rest =>
    match startLabel? line with
    | some (.error e) => [.error e]
    | some (.ok label) => sectionsFrom (some label) content rest
    | none =>
      match opened with
      | none => sectionsFrom none content rest
      | some label =>
        if endsSection label line then
          match Label.ofName? label with
          | none => sectionsFrom none [] rest
          | some label =>
            match Base64.decode content with
            | .error e => [.error (.base64 e)]
            | .ok content => .ok ⟨label, content⟩ :: sectionsFrom none [] rest
        else sectionsFrom opened (content ++ line) rest

def sections (text : Bytes) : List (Except Error Section) :=
  sectionsFrom none [] (lines text)

def certificates (text : Bytes) : Except Error (List Bytes) := do
  let all ← (sections text).mapM id
  return (all.filter (·.label = .certificate)).map Section.content

/-- The first private key of a text, with its label. What follows it is not looked at. -/
def privateKey? (text : Bytes) : Except Error (Option Section) :=
  let isOther : Except Error Section → Bool
    | .ok s => s.label ∉ [Label.rsaPrivateKey, .privateKey, .ecPrivateKey]
    | .error _ => false
  match (sections text).dropWhile isOther with
  | [] => .ok none
  | found :: _ => found.map some

end ClusterProbe.Pem
