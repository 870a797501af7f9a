import MailSearch.Mime.Delimiter
import MailSearch.Mime.Part

/-!
# Taking a message apart

A message is read once from front to back.  Each step reads the fields of one
part; a part that holds others opens a level, and a delimiter closes as many
levels as it can.  A message without the delimiters that it promises is read as
far as it goes.
-/

namespace MailSearch
namespace Mime

/-! ## State -/

/-- The container whose parts are being read. -/
structure Level where
  /-- How its parts relate to each other. -/
  container : Container
  /-- What stands between its parts. -/
  boundary : Option (List UInt8)
  /-- Whether it lies within alternatives. -/
  inAlternative : Bool
  /-- Whether no part of it was read yet. -/
  isFresh : Bool
  /-- The number of parts that the plain text had before. -/
  texts : Nat
  /-- The number of parts that the HTML had before. -/
  htmls : Nat
  /-- Whether its parts belong to the plain text. -/
  needsText : Bool
  /-- Whether its parts belong to the HTML. -/
  needsHtml : Bool

/-- The level of a message. -/
def Level.ofMessage (boundary : Option (List UInt8)) : Level :=
  ⟨.mixed, boundary, false, true, 0, 0, true, true⟩

/-- A level that goes on behind the one that is being read. -/
inductive Frame where
  /-- The container of a container. -/
  | parts (level : Level)
  /--
  The container of a message: its level, its division and the bytes behind the
  first part, the fields of the message and the text that begins with it.
  -/
  | message (level : Level) (division : Division) (behindFirst : Option Nat)
      (header : PartHeader) (start : List UInt8)

/-- What was read so far. -/
structure Progress where
  /-- The innermost level. -/
  level : Level
  /-- The division of the innermost message. -/
  division : Division
  /-- The number of bytes behind the first part of that message, once it has
  ended. -/
  behindFirst : Option Nat
  /-- The levels around it, innermost first. -/
  frames : List Frame

namespace Progress

/-- The state before the first part. -/
def initial : Progress :=
  ⟨.ofMessage none, .empty, none, []⟩

/-! ## Ends -/

/--
A part ends with `behind` bytes behind it.  Only a part that is directly one of
a message, and not of a container in it, can be the first part of the message.
-/
def endPart (progress : Progress) (behind : Nat) : Progress :=
  match progress.frames with
  | .parts _ :: _ => progress
  | _ => { progress with behindFirst := progress.behindFirst.or (some behind) }

/-- The message in a frame ends; it holds what its first part holds, with its
fields. -/
def endMessage (progress : Progress) (behind : Nat) (outer : Level)
    (division : Division)
    (behindFirst : Option Nat) (header : PartHeader) (start : List UInt8)
    (frames : List Frame) : Progress :=
  let size := start.length - progress.behindFirst.getD behind
  endPart ⟨outer, division.attach ⟨header, .binary (start.take size)⟩,
    behindFirst, frames⟩ behind

/-- End all messages and containers where the reading stops. -/
def endAll (behind : Nat) (level : Level) (division : Division)
    (behindFirst : Option Nat) :
    List Frame -> Division
  | [] => division
  | .parts outer :: frames =>
      let ended := endPart ⟨outer, division, behindFirst, frames⟩ behind
      endAll behind outer division ended.behindFirst frames
  | .message outer outerDivision outerFirst header start :: frames =>
      let ended :=
        endMessage ⟨level, division, behindFirst, []⟩ behind outer outerDivision
            outerFirst header
          start frames
      endAll behind outer ended.division ended.behindFirst frames

/-- The division of the outermost message, where the reading stops. -/
def finish (progress : Progress) (behind : Nat) : Division :=
  endAll behind progress.level progress.division progress.behindFirst
    progress.frames

/-! ## Leaves -/

/-- Whether a part may be shown within the body. -/
def isShown (level : Level) (kind : PartKind) (header : PartHeader) : Bool :=
  kind.isShowable && !header.isDetached &&
    (level.isFresh ||
      (level.container ≠ .related && (kind = .media || !header.isNamed)))

/-- Within alternatives, a form that was found leaves no need for the other
one. -/
def settle (level : Level) (kind : PartKind) : Level :=
  if level.inAlternative && (level.needsText || level.needsHtml) then
    match kind with
    | .html => { level with needsText := false }
    | .plain => { level with needsHtml := false }
    | _ => level
  else level

/-- The level behind a part, and whether the part belongs to the plain text and
to the HTML. -/
def place (level : Level) (kind : PartKind) (header : PartHeader) :
    Level × Bool × Bool :=
  if level.container = .alternative then (level, kind = .plain, kind = .html)
  else if isShown level kind header then
    let level := settle level kind
    (level, level.needsText, level.needsHtml)
  else (level, false, false)

/-- What a part of some kind holds. -/
def contentOf (kind : PartKind) (header : PartHeader) (bytes : List UInt8) :
    Content :=
  if kind = .html then .html (header.textOf bytes)
  else if kind.isText then .text (header.textOf bytes)
  else .binary bytes

/-- Whether a part is attached: text that has no place in the body, and all that
is no text. -/
def isAttached (kind : PartKind) (toText toHtml : Bool) : Bool :=
  if kind = .html then !toHtml else if kind.isText then !toText else true

/-- Add a part that holds no others. -/
def addLeaf (progress : Progress) (kind : PartKind) (header : PartHeader)
    (bytes : List UInt8) : Progress :=
  let (level, toText, toHtml) := place progress.level kind header
  let part := ⟨header, contentOf kind header bytes⟩
  let division := progress.division.addBody part toText toHtml
  { progress with
    level := { level with isFresh := false }
    division := if isAttached kind toText toHtml then division.attach part
      else division }

/-! ## Delimiters -/

/-- Let a single form of the body stand for both, when the level is one of
alternatives. -/
def completeLevel (level : Level) (division : Division) : Division :=
  if level.container = .alternative && level.needsText && level.needsHtml then
    division.shareAlternative level.texts level.htmls
  else division

/-- What is left to read: further parts, or nothing in front of some bytes. -/
inductive Rest where
  /-- The reading goes on. -/
  | parts (text : List UInt8)
  /-- The reading stops with a number of bytes behind it. -/
  | stop (behind : Nat)

/--
Close levels behind a delimiter with `behind` bytes from the end of the last
part on, and `rest` behind the boundary.  The innermost message ends with it.  A
container ends with it when two dashes follow; then the next delimiter of the
level around it is looked up, and where there is none the reading stops.
-/
def close (level : Level) (division : Division) (behindFirst : Option Nat)
    (behind : Nat)
    (rest : List UInt8) : List Frame -> Progress × Rest
  | [] => (⟨level, division, behindFirst, []⟩, .stop rest.length)
  | .message outer outerDivision outerFirst header start :: frames =>
      let ended :=
        endMessage ⟨level, division, behindFirst, []⟩ behind outer outerDivision
            outerFirst header
          start frames
      if dashes.isPrefixOf rest then
        close outer ended.division ended.behindFirst behind rest frames
      else (ended, .parts (dropLineEnd rest))
  | .parts outer :: frames =>
      if dashes.isPrefixOf rest then
        let division := completeLevel level division
        let rest := rest.drop dashes.length
        match outer.boundary.bind fun boundary => cut boundary rest with
        | none =>
            let ended :=
              endPart ⟨outer, division, behindFirst, frames⟩ rest.length
            (ended, .stop rest.length)
        | some (before, after) =>
            let behind := rest.length - (dropLineBreak before).length
            let ended := endPart ⟨outer, division, behindFirst, frames⟩ behind
            close outer division ended.behindFirst behind after frames
      else (⟨level, division, behindFirst, .parts outer :: frames⟩,
        .parts (dropLineEnd rest))

theorem length_close_le {level : Level} {division : Division}
    {behindFirst : Option Nat}
    {behind : Nat} {rest next : List UInt8} {frames : List Frame}
    (closed : (close level division behindFirst behind rest frames).2 =
      .parts next) :
    next.length ≤ rest.length := by
  induction frames generalizing level division behindFirst behind rest with
  | nil => simp [close] at closed
  | cons frame frames ih =>
      cases frame with
      | message outer outerDivision outerFirst header start =>
          simp only [close] at closed
          split at closed
          · exact ih closed
          · simp only [Rest.parts.injEq] at closed
            rw [← closed]
            exact length_dropLineEnd_le rest
      | parts outer =>
          simp only [close] at closed
          split at closed
          · split at closed
            · simp at closed
            · rename_i found
              obtain ⟨boundary, _, found⟩ := Option.bind_eq_some_iff.1 found
              have := ih closed
              have := length_cut_lt found
              simp only [List.length_drop] at this
              omega
          · simp only [Rest.parts.injEq] at closed
            rw [← closed]
            exact length_dropLineEnd_le rest

/--
Read the body of a part that holds no others.  What cannot be decoded, or is not
followed by a delimiter that was promised, is kept as it is.
-/
def readLeaf (progress : Progress) (kind : PartKind) (header : PartHeader)
    (body : List UInt8) : Progress × Rest :=
  match progress.level.boundary with
  | none =>
      let progress :=
        match header.transfer.decode? body with
        | some bytes => progress.addLeaf kind header bytes
        | none => progress.addLeaf .otherText header body
      (progress.endPart 0, .stop 0)
  | some boundary =>
      match cut boundary body with
      | none => ((progress.addLeaf .otherText header body).endPart 0, .stop 0)
      | some (before, after) =>
          let raw := dropLineBreak before
          let progress :=
            match header.transfer.decodeBefore? before with
            | some bytes => progress.addLeaf kind header bytes
            | none => progress.addLeaf .otherText header raw
          let behind := body.length - raw.length
          let progress := progress.endPart behind
          close progress.level progress.division progress.behindFirst behind
            after progress.frames

theorem length_readLeaf_le {progress : Progress} {kind : PartKind}
    {header : PartHeader}
    {body next : List UInt8} (read : (readLeaf progress kind header body).2 =
      .parts next) :
    next.length ≤ body.length := by
  unfold readLeaf at read
  split at read
  · simp at read
  · split at read
    · simp at read
    · rename_i found
      have := length_close_le read
      have := length_cut_lt found
      omega

/-! ## The walk -/

/-- Read what follows the fields of a part. -/
def step (progress : Progress) (header : PartHeader) (body : List UInt8) :
    Progress × Rest :=
  let level := progress.level
  let outer := { level with isFresh := false }
  match PartKind.ofField level.container header.contentType with
  | .container container =>
      match header.boundary? with
      | none => progress.readLeaf .other header body
      | some boundary =>
          match cut boundary body with
          | none => progress.readLeaf .otherText header body
          | some (_, after) =>
              let inner :=
                ⟨container, some boundary,
                  level.inAlternative || decide (container = .alternative),
                    true,
                  progress.division.text.length, progress.division.html.length,
                  level.needsText, level.needsHtml⟩
              (⟨inner, progress.division, progress.behindFirst,
                  .parts outer :: progress.frames⟩,
                .parts (dropLineEnd after))
  | .message =>
      if header.transfer = .none then
        let frame :=
          .message outer progress.division progress.behindFirst header body
        (⟨.ofMessage level.boundary, .empty, none, frame :: progress.frames⟩,
          .parts body)
      else progress.readLeaf .message header body
  | kind => progress.readLeaf kind header body

theorem length_step_le {progress : Progress} {header : PartHeader}
    {body next : List UInt8}
    (stepped : (step progress header body).2 = .parts next) :
      next.length ≤ body.length := by
  unfold step at stepped
  simp only at stepped
  split at stepped
  · split at stepped
    · exact length_readLeaf_le stepped
    · split at stepped
      · exact length_readLeaf_le stepped
      · rename_i found
        simp only [Rest.parts.injEq] at stepped
        rw [← stepped]
        exact Nat.le_trans (length_dropLineEnd_le _)
          (Nat.le_of_lt (length_cut_lt found))
  · split at stepped
    · simp only [Rest.parts.injEq] at stepped
      exact Nat.le_of_eq (congrArg List.length stepped).symm
    · exact length_readLeaf_le stepped
  · exact length_readLeaf_le stepped

/-- Read part after part. -/
def walk (progress : Progress) (text : List UInt8) : Division :=
  match _fields : Field.readAll text with
  | (_, none) => progress.finish 0
  | (fields, some body) =>
      match _stepped : step progress (PartHeader.ofFields fields) body with
      | (progress, .stop behind) => progress.finish behind
      | (progress, .parts rest) => walk progress rest
termination_by text.length
decreasing_by
  have := Field.length_readAll _fields
  have := length_step_le (congrArg Prod.snd _stepped)
  omega

end Progress

/-- Divide a message into its parts; `none` if it has neither fields nor a
body. -/
def Division.ofBytes? (text : List UInt8) : Option Division :=
  match Field.readAll text with
  | ([], none) => none
  | _ => some (Progress.initial.walk text)

end Mime
end MailSearch
