/-!
The text of the library that every renderer carries, part by part: the names that a part binds and
its rows as they are emitted. The parts are the renderer's own copy of its functions, so a loaded
renderer needs nothing else.
-/
namespace RenderSource

structure LibraryPart where
  names : List String
  rows : List String

def libraryImports : List LibraryPart := [
  ⟨["datetime"], [
    "import datetime"]⟩,
  ⟨["math"], [
    "import math"]⟩,
  ⟨["re"], [
    "import re"]⟩,
  ⟨["Mapping"], [
    "from collections.abc import Mapping"]⟩,
  ⟨["_quote_component"], [
    "from urllib.parse import quote as _quote_component"]⟩ ]

def libraryAbsence : List LibraryPart := [
  ⟨["RENDERER_VERSION"], [
    "RENDERER_VERSION = \"##version##\""]⟩,
  ⟨["_Undefined"], [
    "class _Undefined:",
    "    \"\"\"Absent value, as opposed to an explicit ``None``.",
    "",
    "    Recognised by shape rather than identity: the copy of this class that lives",
    "    inside a renderer is a different object from the compile-time one.",
    "    \"\"\"",
    "",
    "    __slots__ = ()",
    "    __undefined__ = True",
    "",
    "    def __repr__(self) -> str:",
    "        return \"UNDEFINED\"",
    "",
    "    def __str__(self) -> str:",
    "        return \"\"",
    "",
    "    def __bool__(self) -> bool:",
    "        return False"]⟩,
  ⟨["UNDEFINED"], [
    "UNDEFINED = _Undefined()"]⟩,
  ⟨["is_undefined"], [
    "def is_undefined(value: object) -> bool:",
    "    \"\"\"Return True for any instance of an absent-value sentinel class.\"\"\"",
    "    return getattr(type(value), \"__undefined__\", False) is True"]⟩ ]

def libraryCollections : List LibraryPart := [
  ⟨["each"], [
    "def each(items: object, iterator: object) -> None:",
    "    \"\"\"Call ``iterator(item, index)`` for each item until it returns False.\"\"\"",
    "    if items:",
    "        for index, item in enumerate(items):",
    "            if iterator(item, index) is False:",
    "                break"]⟩,
  ⟨["contains"], [
    "def contains(items: object, value: object) -> bool:",
    "    \"\"\"Membership test that treats a missing collection as empty.\"\"\"",
    "    if not items:",
    "        return False",
    "    for item in items:",
    "        if item == value:",
    "            return True",
    "    return False"]⟩,
  ⟨["extend"], [
    "def extend(target: dict, source: object) -> dict:",
    "    \"\"\"Copy the present entries of ``source`` into ``target`` and return it.\"\"\"",
    "    if source:",
    "        for key, value in source.items():",
    "            if not is_undefined(value):",
    "                target[key] = value",
    "    return target"]⟩,
  ⟨["lookup"], [
    "def lookup(source: object, *path: object) -> object:",
    "    \"\"\"Walk ``path`` through mappings, sequences and attributes.",
    "",
    "    Returns None as soon as a step is missing instead of raising, so a template",
    "    can read optional data without guarding every level.",
    "    \"\"\"",
    "    value = source",
    "    for key in path:",
    "        if value is None or is_undefined(value):",
    "            return None",
    "        if isinstance(value, Mapping):",
    "            value = value.get(key)",
    "        elif isinstance(key, int) and isinstance(value, (list, tuple)):",
    "            value = value[key] if -len(value) <= key < len(value) else None",
    "        elif isinstance(key, str) and not key.startswith(\"_\"):",
    "            value = getattr(value, key, None)",
    "        else:",
    "            return None",
    "    if is_undefined(value):",
    "        return None",
    "    return value"]⟩ ]

def libraryOutput : List LibraryPart := [
  ⟨["_HTML_ESCAPES"], [
    "_HTML_ESCAPES = str.maketrans(",
    "    \x7b",
    "        \"&\": \"&amp;\",",
    "        \"<\": \"&lt;\",",
    "        \">\": \"&gt;\",",
    "        '\"': \"&quot;\",",
    "        \"'\": \"&#39;\",",
    "    \x7d",
    ")"]⟩,
  ⟨["escape_html"], [
    "def escape_html(value: object) -> str:",
    "    \"\"\"Escape ``& < > \" '`` in a single pass. None and absent values give \"\".\"\"\"",
    "    if value is None or is_undefined(value):",
    "        return \"\"",
    "    return str(value).translate(_HTML_ESCAPES)"]⟩,
  ⟨["to_text"], [
    "def to_text(value: object) -> str:",
    "    \"\"\"Convert to text without escaping. None and absent values give \"\".\"\"\"",
    "    if value is None or is_undefined(value):",
    "        return \"\"",
    "    return str(value)"]⟩,
  ⟨["filter_url"], [
    "def filter_url(value: object) -> str:",
    "    \"\"\"Percent-encode a value as a URI component.\"\"\"",
    "    if value is None or is_undefined(value):",
    "        return \"\"",
    "    return _quote_component(str(value), safe=\"!~*'()\")"]⟩,
  ⟨["filter_class"], [
    "def filter_class(value: object) -> object:",
    "    \"\"\"Join a class list with single spaces; other values pass through.\"\"\"",
    "    if isinstance(value, (list, tuple)):",
    "        return \" \".join(\"\" if item is None else str(item) for item in value)",
    "    return value"]⟩,
  ⟨["filter_style"], [
    "def filter_style(value: object) -> object:",
    "    \"\"\"Serialize a style mapping as ``key:value;`` pairs.\"\"\"",
    "    if isinstance(value, Mapping):",
    "        return \"\".join(f\"\x7bkey\x7d:\x7bitem\x7d;\" for key, item in value.items())",
    "    if value is None or is_undefined(value):",
    "        return \"\"",
    "    return value or \"\""]⟩,
  ⟨["filter_sep"], [
    "def filter_sep(value: object, sep: object) -> str:",
    "    \"\"\"Prefix ``value`` with ``sep`` when present, else \"\".\"\"\"",
    "    if value:",
    "        return f\"\x7bsep\x7d\x7bvalue\x7d\"",
    "    return \"\""]⟩,
  ⟨["DEFAULT_FILTERS"], [
    "DEFAULT_FILTERS = \x7b",
    "    \"url\": filter_url,",
    "    \"class\": filter_class,",
    "    \"style\": filter_style,",
    "    \"sep\": filter_sep,",
    "\x7d"]⟩,
  ⟨["attr_filter"], [
    "def attr_filter(name: str, value: object) -> str:",
    "    if value:",
    "        return f' \x7bname\x7d=\"\x7bvalue\x7d\"'",
    "    return \"\""]⟩,
  ⟨["bool_attr_filter"], [
    "def bool_attr_filter(name: str, value: object) -> str:",
    "    if value and value != \"false\" and value != \"0\":",
    "        return f\" \x7bname\x7d\"",
    "    return \"\""]⟩ ]

def libraryLiterals : List LibraryPart := [
  ⟨["StringifyError"], [
    "class StringifyError(Exception):",
    "    \"\"\"A value has no literal source form.\"\"\""]⟩,
  ⟨["UnsupportedValueKind"], [
    "class UnsupportedValueKind(StringifyError, TypeError):",
    "    \"\"\"The value's type cannot be written as a literal (functions, sets, ...).\"\"\"",
    "",
    "    def __init__(self, value: object, reason: str = \"\") -> None:",
    "        self.value = value",
    "        self.kind = type(value).__name__",
    "        try:",
    "            value_repr = repr(value)",
    "        except ValueError:",
    "            value_repr = f\"<\x7bself.kind\x7d>\"",
    "        if len(value_repr) > 80:",
    "            value_repr = value_repr[:77] + \"...\"",
    "        message = f\"Cannot stringify \x7bself.kind\x7d: \x7bvalue_repr\x7d\"",
    "        if reason:",
    "            message += f\" (\x7breason\x7d)\"",
    "        super().__init__(message)"]⟩,
  ⟨["NonFiniteNumber"], [
    "class NonFiniteNumber(UnsupportedValueKind, ValueError):",
    "    \"\"\"NaN and infinities have no numeric literal.\"\"\"",
    "",
    "    def __init__(self, value: object) -> None:",
    "        super().__init__(value, \"non-finite number\")"]⟩,
  ⟨["CyclicStructure"], [
    "class CyclicStructure(StringifyError, ValueError):",
    "    \"\"\"A list or mapping contains itself.\"\"\"",
    "",
    "    def __init__(self, value: object) -> None:",
    "        self.value = value",
    "        self.kind = type(value).__name__",
    "        super().__init__(f\"Cannot stringify cyclic \x7bself.kind\x7d\")"]⟩,
  ⟨["_LITERAL_ESCAPES"], [
    "_LITERAL_ESCAPES = \x7b",
    "    \"\\\\\": \"\\\\\\\\\",",
    "    '\"': '\\\\\"',",
    "    \"\\n\": \"\\\\n\",",
    "    \"\\t\": \"\\\\t\",",
    "    \"\\r\": \"\\\\r\",",
    "\x7d"]⟩,
  ⟨["_LITERAL_UNSAFE"], [
    "_LITERAL_UNSAFE = re.compile(r'[\\x00-\\x1f\\x7f\"\\\\\\ud800-\\udfff]')"]⟩,
  ⟨["_escape_literal_char"], [
    "def _escape_literal_char(match: re.Match) -> str:",
    "    char = match.group()",
    "    escaped = _LITERAL_ESCAPES.get(char)",
    "    if escaped is not None:",
    "        return escaped",
    "    code = ord(char)",
    "    if code >= 0xD800:",
    "        return f\"\\\\u\x7bcode:04x\x7d\"",
    "    return f\"\\\\x\x7bcode:02x\x7d\""]⟩,
  ⟨["quote_string_literal"], [
    "def quote_string_literal(source: str) -> str:",
    "    \"\"\"Return ``source`` as a double-quoted string literal.\"\"\"",
    "    return '\"' + _LITERAL_UNSAFE.sub(_escape_literal_char, source) + '\"'"]⟩,
  ⟨["_EPOCH"], [
    "_EPOCH = datetime.datetime(1970, 1, 1)"]⟩,
  ⟨["_EPOCH_UTC"], [
    "_EPOCH_UTC = datetime.datetime(1970, 1, 1, tzinfo=datetime.timezone.utc)"]⟩,
  ⟨["_MILLISECOND"], [
    "_MILLISECOND = datetime.timedelta(milliseconds=1)"]⟩,
  ⟨["stringify_datetime"], [
    "def stringify_datetime(source: datetime.datetime) -> str:",
    "    \"\"\"Rebuild a datetime from its epoch-millisecond offset.",
    "",
    "    Naive values stay naive. Aware values come back in UTC, which compares",
    "    equal to the original instant.",
    "    \"\"\"",
    "    if source.utcoffset() is None:",
    "        millis = (source.replace(tzinfo=None) - _EPOCH) // _MILLISECOND",
    "        return f\"datetime.datetime(1970, 1, 1) + datetime.timedelta(milliseconds=\x7bmillis\x7d)\"",
    "    millis = (source - _EPOCH_UTC) // _MILLISECOND",
    "    return (",
    "        \"datetime.datetime(1970, 1, 1, tzinfo=datetime.timezone.utc)\"",
    "        f\" + datetime.timedelta(milliseconds=\x7bmillis\x7d)\"",
    "    )"]⟩,
  ⟨["stringify_date"], [
    "def stringify_date(source: datetime.date) -> str:",
    "    return f\"datetime.date.fromordinal(\x7bsource.toordinal()\x7d)\""]⟩,
  ⟨["stringify"], [
    "def stringify(value: object) -> str:",
    "    \"\"\"Return source text that evaluates to a value equal to ``value``.",
    "",
    "    Mapping entries whose value is absent are left out entirely rather than",
    "    written as None. Raises UnsupportedValueKind (or NonFiniteNumber) for values",
    "    with no literal form and CyclicStructure for self-containing containers.",
    "    \"\"\"",
    "    return _stringify(value, set())"]⟩,
  ⟨["_stringify"], [
    "def _stringify(value: object, active: set) -> str:",
    "    if isinstance(value, str):",
    "        return quote_string_literal(value)",
    "    if value is None or is_undefined(value):",
    "        return \"None\"",
    "    if isinstance(value, bool):",
    "        return \"True\" if value else \"False\"",
    "    if isinstance(value, int):",
    "        try:",
    "            return repr(int(value))",
    "        except ValueError:",
    "            raise UnsupportedValueKind(value, \"integer too large\") from None",
    "    if isinstance(value, float):",
    "        if not math.isfinite(value):",
    "            raise NonFiniteNumber(value)",
    "        return repr(float(value))",
    "    if isinstance(value, datetime.datetime):",
    "        return stringify_datetime(value)",
    "    if isinstance(value, datetime.date):",
    "        return stringify_date(value)",
    "    if isinstance(value, (list, tuple)):",
    "        return _stringify_array(value, active)",
    "    if isinstance(value, Mapping):",
    "        return _stringify_mapping(value, active)",
    "    raise UnsupportedValueKind(value)"]⟩,
  ⟨["_stringify_array"], [
    "def _stringify_array(source: object, active: set) -> str:",
    "    marker = id(source)",
    "    if marker in active:",
    "        raise CyclicStructure(source)",
    "    active.add(marker)",
    "    result = \"[\" + \",\".join(_stringify(item, active) for item in source) + \"]\"",
    "    active.discard(marker)",
    "    return result"]⟩,
  ⟨["_stringify_mapping"], [
    "def _stringify_mapping(source: object, active: set) -> str:",
    "    marker = id(source)",
    "    if marker in active:",
    "        raise CyclicStructure(source)",
    "    active.add(marker)",
    "    parts = []",
    "    for key, item in source.items():",
    "        if is_undefined(item):",
    "            continue",
    "        if not isinstance(key, str):",
    "            raise UnsupportedValueKind(key, \"mapping keys must be strings\")",
    "        parts.append(quote_string_literal(key) + \":\" + _stringify(item, active))",
    "    active.discard(marker)",
    "    return \"\x7b\" + \",\".join(parts) + \"\x7d\""]⟩ ]

def libraryParts : List LibraryPart :=
  libraryImports ++ libraryAbsence ++ libraryCollections ++ libraryOutput ++ libraryLiterals

end RenderSource
