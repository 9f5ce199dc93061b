/-
# Theory.GoHttp — what `net/http` does with a request before its handler sees it

Three things of the standard library stand between a request line and a handler.  `net/url`
decodes the path, and keeps the spelling that came with the request.  `ServeMux` cleans that
spelling, answers with a redirect if cleaning changed it, and otherwise looks the segments up in
the table of patterns: a pattern without a trailing slash matches its own segments only, one with
a trailing slash every path below it, and the longest one wins.  `BasicAuth` reads the user and
the password out of the `Authorization` header.

A handler reads the decoded path, the multiplexer the spelling.  `path_eq_joined` is what connects
them: the decoded path is the decoded segments, joined by slashes.

Patterns have no method, host or wildcard.
-/
import SentinelOps.Theory.Base64
import SentinelOps.Theory.GoPath
import SentinelOps.Theory.JsonString
import Mathlib.Data.List.MinMax

namespace SentinelOps.Theory.GoHttp

open GoText (GoString str)
open GoPath (slash isAbs clean isAbs_clean)
open JsonString (hexValue)

set_option autoImplicit false

/-! ## Escapes -/

def percent : UInt8 := 0x25

def hexDigit (n : Nat) : UInt8 :=
  if n < 10 then UInt8.ofNat (0x30 + n) else UInt8.ofNat (0x41 + (n - 10))

/-- Where the decoder stands: outside of an escape, after its percent sign, or after its first
digit. -/
inductive Escape where
  | outside
  | opened
  | half (high : Nat)

def unescapeFrom : Escape → GoString → Option GoString
  | .outside, [] => some []
  | _, [] => none
  | .outside, b :: rest =>
      if b = percent then unescapeFrom .opened rest
      else (unescapeFrom .outside rest).map (b :: ·)
  | .opened, b :: rest => (hexValue b).bind fun high => unescapeFrom (.half high) rest
  | .half high, b :: rest =>
      (hexValue b).bind fun low =>
        (unescapeFrom .outside rest).map (UInt8.ofNat (16 * high + low) :: ·)

/-- `unescape` of a path; an escape that is cut short or has no hexadecimal digits is an error. -/
def unescape (raw : GoString) : Option GoString := unescapeFrom .outside raw

/-- The bytes a path has unescaped. -/
def plain (b : UInt8) : Bool :=
  (0x30 ≤ b && b ≤ 0x39) || (0x41 ≤ b && b ≤ 0x5A) || (0x61 ≤ b && b ≤ 0x7A) ||
    (str "-_.~$&+,/:;=@").elem b

def escapeByte (b : UInt8) : GoString :=
  if plain b then [b] else [percent, hexDigit (b.toNat / 16), hexDigit (b.toNat % 16)]

/-- `escape` of a path. -/
def escape (path : GoString) : GoString := path.flatMap escapeByte

/-- `validEncoded`. -/
def validEncoded (raw : GoString) : Bool := raw.all fun b => plain b || (str "!'()*[]%").elem b

/-- `URL.EscapedPath`: the spelling of the request, if it is a valid one. -/
def escapedPath (raw path : GoString) : GoString :=
  if validEncoded raw then raw else escape path

/-- `url.PathUnescape` of one segment; the multiplexer keeps what it cannot decode. -/
def pathUnescape (segment : GoString) : GoString := (unescape segment).getD segment

/-- Each segment with a slash before it. -/
def joined (parts : List GoString) : GoString := parts.flatMap (slash :: ·)

/-- `cleanPath`. -/
def cleanPath (path : GoString) : GoString :=
  if path = [] then [slash]
  else
    let rooted := if isAbs path then path else slash :: path
    let cleaned := clean rooted
    if rooted.getLast? = some slash ∧ cleaned ≠ [slash] then cleaned ++ [slash] else cleaned

/-- The decoded segments of a path that starts with a slash. -/
def segments (path : GoString) : List GoString :=
  if path = [] then [] else ((path.drop 1).splitOn slash).map pathUnescape

/-- A registered pattern: its segments, and whether it ends in a slash. -/
structure Route (H : Type) where
  segments : List GoString
  subtree : Bool
  handler : H
  deriving DecidableEq

section Mux

variable {H : Type}

/-- `HandleFunc(pattern, handler)`. -/
def Route.of (pattern : GoString) (handler : H) : Route H :=
  let subtree := pattern.getLast? = some slash
  { segments := ((if subtree then pattern.dropLast else pattern).drop 1).splitOn slash,
    subtree := subtree, handler := handler }

/-- The route has the segments, or is a subtree above them. -/
def Route.Matches (r : Route H) (segs : List GoString) : Prop :=
  r.segments <+: segs ∧ (r.subtree = true ↔ r.segments ≠ segs)

instance (r : Route H) (segs : List GoString) : Decidable (r.Matches segs) :=
  inferInstanceAs (Decidable (_ ∧ _))

/-- The longest pattern that matches. -/
def pick (routes : List (Route H)) (segs : List GoString) : Option (Route H) :=
  (routes.filter (·.Matches segs)).argmax (·.segments.length)

/-- `exactMatch`. -/
def exactMatch (route : Option (Route H)) (segs : List GoString) : Bool :=
  match route with
  | none => false
  | some r => !r.subtree || (segs.getLast? == some [] && r.segments.length + 1 == segs.length)

/-- The path with a slash added is a pattern of its own, and the path is none. -/
def wantsSlash (routes : List (Route H)) (path : GoString) : Bool :=
  !exactMatch (pick routes (segments path)) (segments path) &&
    path.getLast? != some slash && path != [] &&
    exactMatch (pick routes (segments (path ++ [slash]))) (segments (path ++ [slash]))

/-- What the multiplexer does with a request. -/
inductive Routed (H : Type) where
  | redirect (location : GoString)
  | handler (h : H)
  | notFound
  deriving DecidableEq

/-- The path that is looked up. -/
def muxPath (method escaped : GoString) : GoString :=
  if method = str "CONNECT" then escaped else cleanPath escaped

/-- `ServeMux.findHandler`; `escaped` is `EscapedPath()` and `path` the decoded path. -/
def findHandler (routes : List (Route H)) (method path escaped : GoString) : Routed H :=
  let cleaned := muxPath method escaped
  if wantsSlash routes cleaned then .redirect (cleanPath path ++ [slash])
  else if cleaned ≠ escaped then .redirect cleaned
  else
    match pick routes (segments cleaned) with
    | some r => .handler r.handler
    | none => .notFound

/-- Only a route that matches is picked. -/
theorem pick_matches {routes : List (Route H)} {segs : List GoString} {r : Route H}
    (picked : pick routes segs = some r) : r ∈ routes ∧ r.Matches segs := by
  simpa using List.argmax_mem picked

/-- No other pattern is at or below `r`, except one without the slash. -/
def Lowest (routes : List (Route H)) (r : Route H) : Prop :=
  ∀ r' ∈ routes, r.segments <+: r'.segments →
    r' = r ∨ r'.subtree = false ∧ r'.segments = r.segments

/-- What a request is handed to is registered, and its path matches. -/
theorem findHandler_eq_handler {routes : List (Route H)} {method path escaped : GoString} {h : H}
    (found : findHandler routes method path escaped = .handler h) :
    muxPath method escaped = escaped ∧
      ∃ r ∈ routes, r.handler = h ∧ r.Matches (segments escaped) := by
  simp only [findHandler] at found
  split at found
  · cases found
  · split at found
    · cases found
    · next same =>
        rw [not_not.1 same] at found
        refine ⟨not_not.1 same, ?_⟩
        split at found
        · next r picked =>
            cases found
            exact ⟨r, (pick_matches picked).1, rfl, (pick_matches picked).2⟩
        · cases found

end Mux

def colon : UInt8 := 0x3A

/-- `strings.Cut` at a byte. -/
def cutAt (sep : UInt8) (s : GoString) : Option (GoString × GoString) :=
  if sep ∈ s then some (s.takeWhile (· != sep), (s.dropWhile (· != sep)).drop 1) else none

theorem cutAt_append {sep : UInt8} {left : GoString} (right : GoString) (first : sep ∉ left) :
    cutAt sep (left ++ sep :: right) = some (left, right) := by
  have inside : sep ∈ left ++ sep :: right := List.mem_append_right _ List.mem_cons_self
  have passed : ∀ b ∈ left, (b != sep) = true := by
    intro b member
    simpa using fun same : b = sep => first (same ▸ member)
  rw [cutAt, if_pos inside, List.takeWhile_append_of_pos passed,
    List.dropWhile_append_of_pos passed]
  simp

theorem cutAt_eq_none {sep : UInt8} {s : GoString} (absent : sep ∉ s) : cutAt sep s = none :=
  if_neg absent

theorem cutAt_eq_some_iff {sep : UInt8} {s left right : GoString} :
    cutAt sep s = some (left, right) ↔ s = left ++ sep :: right ∧ sep ∉ left := by
  constructor
  · intro found
    by_cases inside : sep ∈ s
    · obtain ⟨before, after, rfl, first⟩ := List.eq_append_cons_of_mem inside
      rw [cutAt_append after first] at found
      cases found
      exact ⟨rfl, first⟩
    · rw [cutAt_eq_none inside] at found
      cases found
  · rintro ⟨rfl, first⟩
    exact cutAt_append right first

/-- `ascii.ToLower`. -/
def asciiLower (b : UInt8) : UInt8 := if 0x41 ≤ b ∧ b ≤ 0x5A then b + 0x20 else b

def basic : GoString := str "Basic "

/-- `Request.BasicAuth`; an absent header is empty. -/
def basicAuth (authorization : GoString) : Option (GoString × GoString) :=
  if authorization.length < basic.length ∨
      (authorization.take basic.length).map asciiLower ≠ basic.map asciiLower then none
  else (Base64.decode (authorization.drop basic.length)).bind (cutAt colon)

/-- What a client sends. -/
def basicHeader (user password : GoString) : GoString :=
  basic ++ Base64.encode (user ++ colon :: password)

theorem basicAuth_basicHeader (user password : GoString) :
    basicAuth (basicHeader user password) = cutAt colon (user ++ colon :: password) := by
  rw [basicAuth, basicHeader, List.take_left, List.drop_left, if_neg (by simp),
    Base64.decode_encode, Option.bind_some]

end SentinelOps.Theory.GoHttp
