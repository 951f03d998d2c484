import DeliveryAudit.Destination.Stretch
/-!
# Reading a bucket

The objects whose keys start with a given stem are listed page by page
and read one after another. An object whose key ends in `.gz` is
decompressed. The lines of an object are what stands between its
newlines, where that is not empty.
-/

namespace DeliveryAudit

/-- A bucket, and the stem of the keys in it. -/
structure Bucket where
  name : String
  stem : String

namespace Bucket

/-- The lines of a text. -/
def lines (text : List Char) : List (List Char) := (text.splitOn '\n').filter (!·.isEmpty)

/-- Whether an object of this key is compressed. -/
def isCompressed (key : Text) : Bool := (Text.ofString ".gz").isSuffixOf key

/-- The bytes of an object, decompressed if its key says so. -/
def unpack (key : Text) (bytes : List UInt8) : Except TraversalFault (List UInt8) :=
  if isCompressed key then
    match Gzip.decompress bytes with
    | .ok contents => .ok contents
    | .error (.data c) => .error (.corrupt c)
    | .error f => .error (.destination (.notGzip key f))
  else
    .ok bytes

/-- The lines of the object with this key, from its answer. -/
def objectLines (key : Text) : Body → Except TraversalFault (List (List Char))
  | .absent => .error (.shape (.missing "Body"))
  -- Only failures of the transport and of the system are the destination's.
  | .unreadable (.transport text) =>
    .error (.destination (.unreadable key (.transport text)))
  | .unreadable (.system name text) =>
    .error (.destination (.unreadable key (.system name text)))
  | .unreadable e => .error (.foreign e)
  | .bytes bytes => do
    let contents ← unpack key bytes
    match Utf8.decode contents with
    | .ok text => .ok (lines text)
    | .error f => .error (.notText key f)

/-- A line of an object as it is handed out. -/
def lineEvent (cs : List Char) : Event := .line (.text (cs.map .scalar))

/-- The key of a listed object. -/
def key? : Value → Except TraversalFault Value
  | .mapping entries =>
    match Value.entry? "Key" entries with
    | some k => .ok k
    | none => .error (.shape (.missing "Key"))
  | v => .error (.shape (.noEntries v))

/-- The text of a key, which only texts have. -/
def keyText : Value → Text
  | .text t => t
  | _ => []

/-- The script of the object with a key. -/
def scriptOf (c : Client) : Value → Script Body
  | .text t => c.objectScript t
  | _ => ⟨[], ⟨0.0, .error c.unknownObject⟩⟩

/-- The client with these answers left for the object with a key. -/
def leave (c : Client) (left : List (Answer Float Body)) : Value → Client
  | .text t => c.setObject t left
  | _ => c

/-- Reading an object from its answer. -/
def readBody (key : Value) (body : Body) (w : World) : Stretch :=
  (Stretch.happen [.object] { w with objects := w.objects + 1 }).andThen fun w =>
    match objectLines (keyText key) body with
    | .ok ls => Stretch.happen (ls.map lineEvent) w
    | .error f => Stretch.stop f w

variable [Bounds]

/-- Reading one object. -/
def readObject (b : RetryBudget Float) (src : Bucket) (key : Value) (w : World) : Stretch :=
  -- The request is made before its key turns out to be none.
  if key.isHashable then
    Stretch.call b ("get s3 object " ++ key.quoted) (.getObject src.name key) w
      (scriptOf w.client key) (fun left => leave w.client left key) (readBody key)
  else
    (Stretch.happen [.called (.getObject src.name key)] w).andThen
      (Stretch.stop (.shape (.unhashable key.kindName)))

/-- Reading the objects of a page. -/
def readObjects (b : RetryBudget Float) (src : Bucket) : List Value → World → Stretch
  | [], w => Stretch.none w
  | o :: os, w =>
    match key? o with
    | .error f => Stretch.stop f w
    | .ok key => (readObject b src key w).andThen (readObjects b src os)

/-- The objects that a page lists. -/
def contents (page : List (Value × Value)) : Except TraversalFault (List Value) :=
  Stretch.parts? ((Value.entry? "Contents" page).getD (.list []))

/-- What comes after a page: the token of the next one, or nothing. -/
def continuation (src : Bucket) (page : List (Value × Value)) :
    Except TraversalFault (Option Value) :=
  if ((Value.entry? "IsTruncated" page).getD .null).isTruthy then
    let token := (Value.entry? "NextContinuationToken" page).getD .null
    if token.isTruthy then .ok (some token)
    else .error (.destination (.noContinuation src.name))
  else
    .ok none

/-- Reading what a page of the listing says: its objects, and what comes
after them. -/
def readPage (b : RetryBudget Float) (src : Bucket) (next : Value → World → Stretch)
    (page : List (Value × Value)) (w : World) : Stretch :=
  match contents page with
  | .error f => Stretch.stop f w
  | .ok objects =>
    let note := Stretch.note .debug ("Listing page " ++ toString w.pages ++ ": " ++
      toString objects.length ++ " objects")
    (Stretch.happen [note] w).andThen fun w =>
      (readObjects b src objects w).andThen fun w =>
        match continuation src page with
        | .error f => Stretch.stop f w
        | .ok (some token) => next token w
        | .ok none =>
          Stretch.happen [Stretch.note .info ("Read " ++ toString w.objects ++
            " objects from s3://" ++ src.name ++ "/" ++ src.stem)] w

/-- Reading the answer to a request for a page, which counts as a page
whatever it is. -/
def readAnswer (b : RetryBudget Float) (src : Bucket) (next : Value → World → Stretch)
    (answer : Value) (w : World) : Stretch :=
  (Stretch.happen [.page] { w with pages := w.pages + 1 }).andThen fun w =>
    match Stretch.members? answer with
    | .error f => Stretch.stop f w
    | .ok page => readPage b src next page w

/-- Reading the pages of the listing from a token on. Every page uses up
an answer, so that the number of answers is budget enough. -/
def readPages (b : RetryBudget Float) (src : Bucket) : Nat → Option Value → World → Stretch
  | 0, _, w => Stretch.stop .unsettled w
  | budget + 1, token, w =>
    Stretch.call b ("get the objects from bucket " ++ quoted src.name)
      (.listObjects src.name src.stem token) w w.client.listingScript
      (fun left => { w.client with listings := left })
      (readAnswer b src fun token w => readPages b src budget (some token) w)

/-- Reading a bucket. -/
def read (b : RetryBudget Float) (src : Bucket) (w : World) : Stretch :=
  readPages b src (w.client.listings.length + 1) none w

end Bucket

end DeliveryAudit
