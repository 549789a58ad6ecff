/-!
# Faults in YAML text

Where a reader stands in a text, and what it may find wrong there.
-/

set_option autoImplicit false

namespace ConfigReference.Yaml

/-- A place in a text: characters before it, line from one, and characters before it on its
line. -/
structure Mark where
  index : Nat := 0
  line : Nat := 1
  column : Nat := 0
  deriving DecidableEq, Inhabited, Repr

inductive Fault where
  -- characters and layout
  | unexpectedCharacter (c : Char)
  | invalidIndentation
  | tabIndentation
  | tabInContext
  | expectedBlank
  | gluedComment
  | expectedKeyColon
  | expectedSimpleKey
  | nestingTooDeep
  | contentAfterDocumentEnd
  -- entries, keys and values
  | entryInFlow
  | entryNotAllowed
  | anchorIndentation
  | entryAfterTab
  | keyNotAllowed
  | valueNotAllowed
  | valueAfterTab
  | misplacedColon
  -- directives
  | directiveName
  | directiveNameCharacter
  | directiveTrailing
  | versionPoint
  | versionLength
  | versionNumber
  | tagDirectiveBlank
  | tagDirectiveHandle
  -- tags and anchors
  | tagMark
  | tagStart
  | verbatimEnd
  | tagSuffix
  | tagTrailing
  | tagEscape
  | tagEscapeLead
  | tagEscapeTail
  | tagEscapeCode
  | anchorName
  -- scalars
  | blockIndicatorZero
  | blockHeader
  | blockLeadingTab
  | blockIndentation
  | quotedDocumentMark
  | quotedEnd
  | quotedIndentation
  | quotedTab
  | quotedEscape
  | quotedHex
  | quotedCode
  | quotedTrailing
  | flowIndentation
  | plainDash
  | plainTab
  -- structure
  | unexpectedEnd
  | streamStart
  | documentStart
  | directiveWithoutDocumentEnd
  | duplicateVersion
  | duplicateTagHandle
  | undeclaredHandle
  | unknownAnchor
  | nodeContent
  | blockMappingKey
  | blockSequenceEntry
  | flowMappingEntry
  | flowSequenceEntry
  deriving DecidableEq, Repr

def Fault.message : Fault → String
  | unexpectedCharacter c => "unexpected character: `" ++ String.ofList [c] ++ "'"
  | invalidIndentation => "invalid indentation"
  | tabIndentation => "tabs disallowed within this context (block indentation)"
  | tabInContext => "tabs disallowed in this context"
  | expectedBlank => "expected whitespace"
  | gluedComment => "comments must be separated from other tokens by whitespace"
  | expectedKeyColon => "simple key expect ':'"
  | expectedSimpleKey => "simple key expected"
  | nestingTooDeep => "recursion limit exceeded"
  | contentAfterDocumentEnd => "invalid content after document end marker"
  | entryInFlow => "\"-\" is only valid inside a block"
  | entryNotAllowed => "block sequence entries are not allowed in this context"
  | anchorIndentation => "invalid indentation for anchor"
  | entryAfterTab => "'-' must be followed by a valid YAML whitespace"
  | keyNotAllowed => "mapping keys are not allowed in this context"
  | valueNotAllowed => "mapping values are not allowed in this context"
  | valueAfterTab => "':' must be followed by a valid YAML whitespace"
  | misplacedColon => "illegal placement of ':' indicator"
  | directiveName => "while scanning a directive, could not find expected directive name"
  | directiveNameCharacter =>
    "while scanning a directive, found unexpected non-alphabetical character"
  | directiveTrailing =>
    "while scanning a directive, did not find expected comment or line break"
  | versionPoint =>
    "while scanning a YAML directive, did not find expected digit or '.' character"
  | versionLength => "while scanning a YAML directive, found extremely long version number"
  | versionNumber => "while scanning a YAML directive, did not find expected version number"
  | tagDirectiveBlank => "while scanning TAG, did not find expected whitespace or line break"
  | tagDirectiveHandle => "while parsing a tag directive, did not find expected '!'"
  | tagMark => "while scanning a tag, did not find expected '!'"
  | tagStart => "invalid global tag character"
  | verbatimEnd => "while scanning a verbatim tag, did not find the expected '>'"
  | tagSuffix => "while parsing a tag, did not find expected tag URI"
  | tagTrailing => "while scanning a tag, did not find expected whitespace or line break"
  | tagEscape => "while parsing a tag, found an invalid escape sequence"
  | tagEscapeLead => "while parsing a tag, found an incorrect leading UTF-8 byte"
  | tagEscapeTail => "while parsing a tag, found an incorrect trailing UTF-8 byte"
  | tagEscapeCode => "while parsing a tag, found an invalid UTF-8 codepoint"
  | anchorName =>
    "while scanning an anchor or alias, "
      ++ "did not find expected alphabetic or numeric character"
  | blockIndicatorZero =>
    "while scanning a block scalar, found an indentation indicator equal to 0"
  | blockHeader => "while scanning a block scalar, did not find expected comment or line break"
  | blockLeadingTab => "a block scalar content cannot start with a tab"
  | blockIndentation => "wrongly indented line in block scalar"
  | quotedDocumentMark => "while scanning a quoted scalar, found unexpected document indicator"
  | quotedEnd => "while scanning a quoted scalar, found unexpected end of stream"
  | quotedIndentation => "invalid indentation in quoted scalar"
  | quotedTab => "tab cannot be used as indentation"
  | quotedEscape => "while parsing a quoted scalar, found unknown escape character"
  | quotedHex => "while parsing a quoted scalar, did not find expected hexadecimal number"
  | quotedCode => "while parsing a quoted scalar, found invalid Unicode character escape code"
  | quotedTrailing => "invalid trailing content after double-quoted scalar"
  | flowIndentation => "invalid indentation in flow construct"
  | plainDash => "plain scalar cannot start with '-' followed by ,[]\x7b\x7d"
  | plainTab => "while scanning a plain scalar, found a tab"
  | unexpectedEnd => "unexpected eof"
  | streamStart => "did not find expected <stream-start>"
  | documentStart => "did not find expected <document start>"
  | directiveWithoutDocumentEnd => "missing explicit document end marker before directive"
  | duplicateVersion => "duplicate version directive"
  | duplicateTagHandle =>
    "the TAG directive must only be given at most once per handle in the same document"
  | undeclaredHandle => "the handle wasn't declared"
  | unknownAnchor => "while parsing node, found unknown anchor"
  | nodeContent => "while parsing a node, did not find expected node content"
  | blockMappingKey => "while parsing a block mapping, did not find expected key"
  | blockSequenceEntry =>
    "while parsing a block collection, did not find expected '-' indicator"
  | flowMappingEntry =>
    "while parsing a flow mapping, did not find expected ',' or '\x7d'"
  | flowSequenceEntry => "while parsing a flow sequence, expected ',' or ']'"

structure SyntaxError where
  fault : Fault
  mark : Mark
  deriving DecidableEq, Repr

def SyntaxError.message (e : SyntaxError) : String :=
  e.fault.message ++ " at byte " ++ toString e.mark.index ++ " line " ++ toString e.mark.line
    ++ " column " ++ toString (e.mark.column + 1)

end ConfigReference.Yaml
