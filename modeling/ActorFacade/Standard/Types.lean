import ActorFacade.Hierarchy.Basic

/-! # Standard types

Some types are there without being declared: those of values, of functions and of the classes
themselves.  What their objects and they themselves have is fixed.  The table below says for every
type what attributes it has besides those of the types that it derives from.
-/

namespace ActorFacade

/-- An attribute of a type, standard or declared. -/
inductive Slot where
  /-- An operation that the language has a sign for. -/
  | operator
  /-- Any other operation. -/
  | procedure
  /-- An operation of the class that it is looked up from. -/
  | shared
  /-- An operation that is the same wherever it is looked up from. -/
  | fixed
  /-- A part of every object, which is of this type. -/
  | field (typeName : Text)
  /-- Something that is read off every object and is of this type. -/
  | reading (typeName : Text)
  /-- One object of this type, the same for all. -/
  | object (typeName : Text)
  | declared (a : Attribute)
deriving DecidableEq, Repr

/-- Whether an attribute is read off objects; it comes before what an object itself has. -/
def Slot.isReading : Slot → Bool
  | .field _ | .reading _ => true
  | _ => false

/-- Whether an attribute is a part of objects. -/
def Slot.isField : Slot → Bool
  | .field _ => true
  | _ => false

/-- A standard type with its own attributes.  A name that an object is named for is followed by its
type, behind a colon. -/
structure StandardType where
  /-- The full name. -/
  name : Text
  /-- The types that it derives from, the nearest first, without the type of all objects. -/
  behind : List Text := []
  /-- Operations that the language has a sign for. -/
  operators : List Text := []
  /-- Other operations. -/
  procedures : List Text := []
  /-- Operations of the class that they are looked up from. -/
  shared : List Text := []
  /-- Operations that are the same wherever they are looked up from. -/
  fixed : List Text := []
  /-- Parts of objects. -/
  fields : List Text := []
  /-- What is read off objects. -/
  readings : List Text := []
  /-- Objects that are the same for all. -/
  objects : List Text := []
  /-- Values that are the same for all. -/
  values : List (Text × Value) := []
  /-- The names of own attributes without documentation. -/
  undocumented : List Text := []
  /-- The names of own operations of which the parameters are not known. -/
  unsigned : List Text := []
  /-- Whether the parameters of the type itself are known. -/
  isSigned : Bool := false
  /-- Whether the type has documentation of its own, besides that of its objects. -/
  isDocumented : Bool := true
  /-- Operations with formal parameters. -/
  functions : List (Text × Attribute) := []
deriving DecidableEq, Repr

namespace StandardType

/-- The words of a text. -/
def words (t : Text) : List Text := Text.pieces 0x20 t

/-- A type name written in short: a name without module belongs to the values. -/
def fullName (name : Text) : Text := if name.contains 0x2E then name else valueModule ++ name

/-- The type behind a name and a colon in some words. -/
def typeOf? (name : Text) (entries : List Text) : Option Text :=
  entries.findSome? fun e ↦ (e.cut? ":").bind fun (n, type) ↦
    if n = name then some (fullName type) else none

/-- The attribute of a name that a type itself has. -/
def slot? (t : StandardType) (name : Text) : Option Slot :=
  if t.operators.contains name then some .operator
  else if t.procedures.contains name then some .procedure
  else if t.shared.contains name then some .shared
  else if t.fixed.contains name then some .fixed
  else
    ((typeOf? name t.fields).map .field).or <|
    ((typeOf? name t.readings).map .reading).or <|
    ((typeOf? name t.objects).map .object).or <|
    ((t.values.lookup name).map fun v ↦ .declared (.value v)).or
      ((t.functions.lookup name).map .declared)

/-- The formal parameter that a word describes: stars in front of its name say that it takes all
arguments that are left, and an equals sign behind it that it has a default. -/
def formal (word : Text) : Formal :=
  match word with
  | 0x2A :: 0x2A :: name => { name, kind := .keywordVariadic }
  | 0x2A :: name => { name, kind := .variadic }
  | name =>
    if name.getLast? = some 0x3D then { name := name.dropLast, default := some .null }
    else { name }

/-- A function whose formal parameters are described by words. -/
def method (qualified formals : Text) : Function where
  qualified := qualified
  formals := (words formals).map formal

/-- A function with documentation, of which it only counts that it is there. -/
def documented (qualified formals : Text) : Function :=
  { method qualified formals with doc := some [] }

/-- A function that uses variables of the functions around it. -/
def closure (qualified formals : Text) : Function :=
  { method qualified formals with isClosure := true }

/-- The function by which generic classes take parameters. -/
def parametersFunction : Function :=
  { documented "Generic.__class_getitem__" "cls params" with isClosure := true }

/-- The function that shows the reference to a constant. -/
def constantShower : Function := closure "ConstantRef.__repr__" "self"

/-- The function that another one stands in for, if it keeps it. -/
def wrapped? (f : Function) : Option Function :=
  if f = parametersFunction then some { f with isClosure := false }
  else if f = constantShower then some (method "__create_fn__.<locals>.__repr__" "self")
  else none

/-- The function that sets the traits of a class of records. -/
def traitsInitialiser : Function :=
  method "_DataclassParams.__init__" "self init repr eq order unsafe_hash frozen"

/-- The standard types. -/
def all : List StandardType := [
  { name := "builtins.object"
    operators := words
      ("__repr__ __hash__ __str__ __getattribute__ __setattr__ __delattr__ __lt__ __le__ " ++
      "__eq__ __ne__ __gt__ __ge__ __init__")
    procedures := words "__reduce_ex__ __reduce__ __getstate__ __format__ __sizeof__ __dir__"
    shared := words "__subclasshook__ __init_subclass__"
    fixed := words "__new__"
    readings := words "__class__:type"
    objects := words "__doc__:str"
    unsigned := words "__subclasshook__ __init_subclass__"
    isSigned := true },
  { name := "builtins.type"
    operators := words
      ("__repr__ __call__ __getattribute__ __setattr__ __delattr__ __init__ __or__ __ror__")
    procedures := words "mro __subclasses__ __instancecheck__ __subclasscheck__ __dir__ __sizeof__"
    shared := words "__prepare__"
    fixed := words "__new__"
    fields := words
      ("__basicsize__:int __itemsize__:int __flags__:int __weakrefoffset__:int __base__:type " ++
      "__dictoffset__:int __mro__:tuple")
    readings := words
      ("__name__:str __qualname__:str __bases__:tuple __module__:str " ++
      "__abstractmethods__:frozenset __dict__:mappingproxy __doc__:NoneType " ++
      "__text_signature__:NoneType __annotations__:dict")
    undocumented := words
      ("__basicsize__ __itemsize__ __flags__ __weakrefoffset__ __base__ __dictoffset__ __mro__ " ++
      "__name__ __qualname__ __bases__ __module__ __abstractmethods__ __dict__ __doc__ " ++
      "__text_signature__ __annotations__")
    unsigned := words "__prepare__" },
  { name := "builtins.function"
    operators := words "__repr__ __call__ __get__"
    fixed := words "__new__"
    fields := words
      ("__closure__:NoneType __doc__:NoneType __globals__:dict __module__:str " ++
      "__builtins__:dict")
    readings := words
      ("__code__:code __defaults__:NoneType __kwdefaults__:NoneType __annotations__:dict " ++
      "__dict__:dict __name__:str __qualname__:str")
    undocumented := words
      ("__closure__ __doc__ __globals__ __module__ __builtins__ __code__ __defaults__ " ++
      "__kwdefaults__ __annotations__ __dict__ __name__ __qualname__")
    isSigned := true },
  { name := "builtins.method"
    operators := words
      ("__repr__ __hash__ __call__ __getattribute__ __setattr__ __delattr__ __lt__ __le__ " ++
      "__eq__ __ne__ __gt__ __ge__")
    procedures := words "__reduce__"
    fixed := words "__new__"
    fields := words "__func__:function __self__:object"
    readings := words "__doc__:NoneType"
    undocumented := words "__reduce__ __doc__"
    isSigned := true },
  { name := "builtins.property"
    operators := words "__getattribute__ __get__ __set__ __delete__ __init__"
    procedures := words "getter setter deleter __set_name__"
    fixed := words "__new__"
    fields := words "fget:function fset:NoneType fdel:NoneType __doc__:NoneType"
    readings := words "__isabstractmethod__:bool"
    undocumented := words "fget fset fdel __doc__ __isabstractmethod__"
    unsigned := words "getter setter deleter __set_name__"
    isSigned := true },
  { name := "builtins.module"
    operators := words "__repr__ __getattribute__ __setattr__ __delattr__ __init__"
    procedures := words "__dir__"
    fixed := words "__new__"
    fields := words "__dict__:dict"
    readings := words "__annotations__:dict"
    objects := words "__doc__:str"
    undocumented := words "__dict__ __annotations__"
    unsigned := words "__dir__"
    isSigned := true },
  { name := "builtins.int"
    operators := words
      ("__repr__ __hash__ __getattribute__ __lt__ __le__ __eq__ __ne__ __gt__ __ge__ __add__ " ++
      "__radd__ __sub__ __rsub__ __mul__ __rmul__ __mod__ __rmod__ __divmod__ __rdivmod__ " ++
      "__pow__ __rpow__ __neg__ __pos__ __abs__ __bool__ __invert__ __lshift__ __rlshift__ " ++
      "__rshift__ __rrshift__ __and__ __rand__ __xor__ __rxor__ __or__ __ror__ __int__ " ++
      "__float__ __floordiv__ __rfloordiv__ __truediv__ __rtruediv__ __index__")
    procedures := words
      ("conjugate bit_length bit_count to_bytes as_integer_ratio __trunc__ __floor__ " ++
      "__ceil__ __round__ __getnewargs__ __format__ __sizeof__")
    shared := words "from_bytes"
    fixed := words "__new__"
    readings := words "real:int imag:int numerator:int denominator:int"
    objects := words "__doc__:str"
    undocumented := words "__getnewargs__ __format__"
    unsigned := words "conjugate __trunc__ __floor__ __ceil__" },
  { name := "builtins.bool"
    behind := ["builtins.int"]
    operators := words "__repr__ __and__ __rand__ __xor__ __rxor__ __or__ __ror__"
    fixed := words "__new__"
    objects := words "__doc__:str" },
  { name := "builtins.float"
    operators := words
      ("__repr__ __hash__ __getattribute__ __lt__ __le__ __eq__ __ne__ __gt__ __ge__ __add__ " ++
      "__radd__ __sub__ __rsub__ __mul__ __rmul__ __mod__ __rmod__ __divmod__ __rdivmod__ " ++
      "__pow__ __rpow__ __neg__ __pos__ __abs__ __bool__ __int__ __float__ __floordiv__ " ++
      "__rfloordiv__ __truediv__ __rtruediv__")
    procedures := words
      ("conjugate __trunc__ __floor__ __ceil__ __round__ as_integer_ratio hex is_integer " ++
      "__getnewargs__ __format__")
    shared := words "fromhex __getformat__"
    fixed := words "__new__"
    readings := words "real:float imag:float"
    objects := words "__doc__:str"
    undocumented := words "__getnewargs__"
    isSigned := true },
  { name := "builtins.str"
    operators := words
      ("__repr__ __hash__ __str__ __getattribute__ __lt__ __le__ __eq__ __ne__ __gt__ __ge__ " ++
      "__iter__ __mod__ __rmod__ __len__ __getitem__ __add__ __mul__ __rmul__ __contains__")
    procedures := words
      ("encode replace split rsplit join capitalize casefold title center count expandtabs " ++
      "find partition index ljust lower lstrip rfind rindex rjust rstrip rpartition " ++
      "splitlines strip swapcase translate upper startswith endswith removeprefix " ++
      "removesuffix isascii islower isupper istitle isspace isdecimal isdigit isnumeric " ++
      "isalpha isalnum isidentifier isprintable zfill format format_map __format__ " ++
      "__sizeof__ __getnewargs__")
    fixed := words "__new__ maketrans"
    objects := words "__doc__:str"
    undocumented := words "__getnewargs__"
    unsigned := words
      ("count find index rfind rindex startswith endswith format format_map __getnewargs__") },
  { name := "builtins.NoneType"
    operators := words "__repr__ __bool__"
    fixed := words "__new__"
    objects := words "__doc__:NoneType" },
  { name := "builtins.list"
    operators := words
      ("__repr__ __getattribute__ __lt__ __le__ __eq__ __ne__ __gt__ __ge__ __iter__ " ++
      "__init__ __len__ __setitem__ __delitem__ __add__ __mul__ __rmul__ __contains__ " ++
      "__iadd__ __imul__")
    procedures := words
      ("__getitem__ __reversed__ __sizeof__ clear copy append insert extend pop remove index " ++
      "count reverse sort")
    shared := words "__class_getitem__"
    fixed := words "__new__"
    objects := words "__hash__:NoneType __doc__:str"
    unsigned := words "__getitem__ __class_getitem__"
    isSigned := true },
  { name := "builtins.tuple"
    operators := words
      ("__repr__ __hash__ __getattribute__ __lt__ __le__ __eq__ __ne__ __gt__ __ge__ " ++
      "__iter__ __len__ __getitem__ __add__ __mul__ __rmul__ __contains__")
    procedures := words "__getnewargs__ index count"
    shared := words "__class_getitem__"
    fixed := words "__new__"
    objects := words "__doc__:str"
    undocumented := words "__getnewargs__"
    unsigned := words "__class_getitem__"
    isSigned := true },
  { name := "builtins.set"
    operators := words
      ("__repr__ __getattribute__ __lt__ __le__ __eq__ __ne__ __gt__ __ge__ __iter__ " ++
      "__init__ __sub__ __rsub__ __and__ __rand__ __xor__ __rxor__ __or__ __ror__ __isub__ " ++
      "__iand__ __ixor__ __ior__ __len__")
    procedures := words
      ("__contains__ add clear copy discard difference difference_update intersection " ++
      "intersection_update isdisjoint issubset issuperset pop __reduce__ remove __sizeof__ " ++
      "symmetric_difference symmetric_difference_update union update")
    shared := words "__class_getitem__"
    fixed := words "__new__"
    objects := words "__hash__:NoneType __doc__:str"
    unsigned := words
      ("__contains__ add clear copy discard difference difference_update intersection " ++
      "intersection_update isdisjoint pop __reduce__ remove __sizeof__ symmetric_difference " ++
      "symmetric_difference_update union update __class_getitem__") },
  { name := "builtins.frozenset"
    operators := words
      ("__repr__ __hash__ __getattribute__ __lt__ __le__ __eq__ __ne__ __gt__ __ge__ " ++
      "__iter__ __sub__ __rsub__ __and__ __rand__ __xor__ __rxor__ __or__ __ror__ __len__")
    procedures := words
      ("__contains__ copy difference intersection isdisjoint issubset issuperset __reduce__ " ++
      "__sizeof__ symmetric_difference union")
    shared := words "__class_getitem__"
    fixed := words "__new__"
    objects := words "__doc__:str"
    unsigned := words
      ("__contains__ copy difference intersection isdisjoint __reduce__ __sizeof__ " ++
      "symmetric_difference union __class_getitem__") },
  { name := "builtins.dict"
    operators := words
      ("__repr__ __getattribute__ __lt__ __le__ __eq__ __ne__ __gt__ __ge__ __iter__ " ++
      "__init__ __or__ __ror__ __ior__ __len__ __setitem__ __delitem__")
    procedures := words
      ("__getitem__ __contains__ __sizeof__ get setdefault pop popitem keys items values " ++
      "update clear copy __reversed__")
    shared := words "fromkeys __class_getitem__"
    fixed := words "__new__"
    objects := words "__hash__:NoneType __doc__:str"
    unsigned := words
      "__getitem__ __sizeof__ keys items values update clear copy __class_getitem__" },
  { name := "builtins.bytes"
    operators := words
      ("__repr__ __hash__ __str__ __getattribute__ __lt__ __le__ __eq__ __ne__ __gt__ __ge__ " ++
      "__iter__ __mod__ __rmod__ __len__ __getitem__ __add__ __mul__ __rmul__ __contains__")
    procedures := words
      ("__getnewargs__ __bytes__ capitalize center count decode endswith expandtabs find hex " ++
      "index isalnum isalpha isascii isdigit islower isspace istitle isupper join ljust " ++
      "lower lstrip partition replace removeprefix removesuffix rfind rindex rjust " ++
      "rpartition rsplit rstrip split splitlines startswith strip swapcase title translate " ++
      "upper zfill")
    shared := words "fromhex"
    fixed := words "__new__ maketrans"
    objects := words "__doc__:str"
    undocumented := words "__getnewargs__"
    unsigned := words
      ("__getnewargs__ capitalize count endswith find index isalnum isalpha isascii isdigit " ++
      "islower isspace istitle isupper lower rfind rindex startswith swapcase title upper") },
  { name := "builtins.mappingproxy"
    operators := words
      ("__repr__ __str__ __getattribute__ __lt__ __le__ __eq__ __ne__ __gt__ __ge__ __iter__ " ++
      "__or__ __ror__ __ior__ __len__ __getitem__ __contains__")
    procedures := words "get keys values items copy __reversed__"
    shared := words "__class_getitem__"
    fixed := words "__new__"
    objects := words "__doc__:NoneType __hash__:NoneType"
    unsigned := words "get keys values items copy __class_getitem__ __reversed__" },
  { name := "builtins.code"
    operators := words
      ("__repr__ __hash__ __getattribute__ __lt__ __le__ __eq__ __ne__ __gt__ __ge__")
    procedures := words "__sizeof__ co_lines co_positions replace _varname_from_oparg"
    fixed := words "__new__"
    fields := words
      ("co_argcount:int co_posonlyargcount:int co_kwonlyargcount:int co_stacksize:int " ++
      "co_flags:int co_nlocals:int co_consts:tuple co_names:tuple co_filename:str " ++
      "co_name:str co_qualname:str co_firstlineno:int co_linetable:bytes " ++
      "co_exceptiontable:bytes")
    readings := words
      ("co_lnotab:bytes _co_code_adaptive:bytes co_varnames:tuple co_cellvars:tuple " ++
      "co_freevars:tuple co_code:bytes")
    objects := words "__doc__:str"
    undocumented := words
      ("__sizeof__ co_lines co_positions co_argcount co_posonlyargcount co_kwonlyargcount " ++
      "co_stacksize co_flags co_nlocals co_consts co_names co_filename co_name co_qualname " ++
      "co_firstlineno co_linetable co_exceptiontable co_lnotab _co_code_adaptive co_varnames " ++
      "co_cellvars co_freevars co_code")
    unsigned := words "__sizeof__ co_lines co_positions"
    isSigned := true },
  { name := "builtins.builtin_function_or_method"
    operators := words
      ("__repr__ __hash__ __call__ __getattribute__ __lt__ __le__ __eq__ __ne__ __gt__ " ++
      "__ge__")
    procedures := words "__reduce__"
    fields := words "__module__:str"
    readings := words
      ("__doc__:str __name__:str __qualname__:str __self__:module __text_signature__:str")
    undocumented := words
      ("__reduce__ __module__ __doc__ __name__ __qualname__ __self__ __text_signature__")
    unsigned := words "__reduce__"
    isDocumented := false },
  { name := "builtins.method-wrapper"
    operators := words
      ("__repr__ __hash__ __call__ __getattribute__ __lt__ __le__ __eq__ __ne__ __gt__ " ++
      "__ge__")
    procedures := words "__reduce__"
    fields := words "__self__:int"
    readings := words
      ("__objclass__:type __name__:str __qualname__:str __doc__:str __text_signature__:str")
    undocumented := words
      ("__reduce__ __self__ __objclass__ __name__ __qualname__ __doc__ __text_signature__")
    unsigned := words "__reduce__"
    isDocumented := false },
  { name := "builtins.wrapper_descriptor"
    operators := words "__repr__ __call__ __getattribute__ __get__"
    procedures := words "__reduce__"
    fields := words "__objclass__:type __name__:str"
    readings := words "__doc__:str __qualname__:str __text_signature__:str"
    undocumented := words "__reduce__ __objclass__ __name__ __doc__ __qualname__ __text_signature__"
    unsigned := words "__reduce__"
    isDocumented := false },
  { name := "builtins.method_descriptor"
    operators := words "__repr__ __call__ __getattribute__ __get__"
    procedures := words "__reduce__"
    fields := words "__objclass__:type __name__:str"
    readings := words "__doc__:str __qualname__:str __text_signature__:str"
    undocumented := words "__reduce__ __objclass__ __name__ __doc__ __qualname__ __text_signature__"
    unsigned := words "__reduce__"
    isDocumented := false },
  { name := "builtins.getset_descriptor"
    operators := words "__repr__ __getattribute__ __get__ __set__ __delete__"
    fields := words "__objclass__:type __name__:str"
    readings := words "__doc__:NoneType __qualname__:str"
    undocumented := words "__objclass__ __name__ __doc__ __qualname__"
    isDocumented := false },
  { name := "builtins.member_descriptor"
    operators := words "__repr__ __getattribute__ __get__ __set__ __delete__"
    procedures := words "__reduce__"
    fields := words "__objclass__:type __name__:str"
    readings := words "__doc__:NoneType __qualname__:str"
    undocumented := words "__reduce__ __objclass__ __name__ __doc__ __qualname__"
    unsigned := words "__reduce__"
    isDocumented := false },
  { name := "datetime.date"
    operators := words
      ("__repr__ __hash__ __str__ __getattribute__ __lt__ __le__ __eq__ __ne__ __gt__ __ge__ " ++
      "__add__ __radd__ __sub__ __rsub__")
    procedures := words
      ("ctime strftime __format__ timetuple isocalendar isoformat isoweekday toordinal " ++
      "weekday replace __reduce__")
    shared := words "fromtimestamp fromordinal fromisoformat fromisocalendar today"
    fixed := words "__new__"
    readings := words "year:int month:int day:int"
    objects := words
      ("__doc__:str min:datetime.date max:datetime.date resolution:datetime.timedelta")
    undocumented := words "year month day"
    unsigned := words
      ("fromordinal fromisoformat fromisocalendar today ctime strftime __format__ timetuple " ++
      "isocalendar isoformat isoweekday toordinal weekday replace __reduce__") },
  { name := "datetime.datetime"
    behind := ["datetime.date"]
    operators := words
      ("__repr__ __hash__ __str__ __getattribute__ __lt__ __le__ __eq__ __ne__ __gt__ __ge__ " ++
      "__add__ __radd__ __sub__ __rsub__")
    procedures := words
      ("date time timetz ctime timetuple timestamp utctimetuple isoformat utcoffset tzname " ++
      "dst replace astimezone __reduce_ex__ __reduce__")
    shared := words "now utcnow fromtimestamp utcfromtimestamp strptime combine fromisoformat"
    fixed := words "__new__"
    readings := words "hour:int minute:int second:int microsecond:int tzinfo:NoneType fold:int"
    objects := words
      ("__doc__:str min:datetime.datetime max:datetime.datetime " ++
      "resolution:datetime.timedelta")
    undocumented := words "hour minute second microsecond tzinfo fold"
    unsigned := words
      ("utcnow fromtimestamp utcfromtimestamp strptime combine fromisoformat date time timetz " ++
      "ctime timetuple timestamp utctimetuple isoformat utcoffset tzname dst replace " ++
      "astimezone __reduce_ex__ __reduce__") },
  { name := "datetime.timedelta"
    operators := words
      ("__repr__ __hash__ __str__ __getattribute__ __lt__ __le__ __eq__ __ne__ __gt__ __ge__ " ++
      "__add__ __radd__ __sub__ __rsub__ __mul__ __rmul__ __mod__ __rmod__ __divmod__ " ++
      "__rdivmod__ __neg__ __pos__ __abs__ __bool__ __floordiv__ __rfloordiv__ __truediv__ " ++
      "__rtruediv__")
    procedures := words "total_seconds __reduce__"
    fixed := words "__new__"
    fields := words "days:int seconds:int microseconds:int"
    objects := words
      ("__doc__:str resolution:datetime.timedelta min:datetime.timedelta " ++
      "max:datetime.timedelta")
    unsigned := words "total_seconds __reduce__" },
  { name := "datetime.timezone"
    behind := ["datetime.tzinfo"]
    operators := words "__repr__ __hash__ __str__ __lt__ __le__ __eq__ __ne__ __gt__ __ge__"
    procedures := words "tzname utcoffset dst fromutc __getinitargs__"
    fixed := words "__new__"
    objects := words
      ("__doc__:str utc:datetime.timezone min:datetime.timezone max:datetime.timezone")
    unsigned := words "tzname utcoffset dst fromutc __getinitargs__" },
  { name := "datetime.tzinfo"
    operators := words "__getattribute__"
    procedures := words "tzname utcoffset dst fromutc __reduce__"
    fixed := words "__new__"
    objects := words "__doc__:str"
    unsigned := words "tzname utcoffset dst fromutc __reduce__" },
  { name := "abc.ABCMeta"
    behind := ["builtins.type"]
    objects := words "__doc__:str"
    functions := [
      ("__new__", .static (closure "ABCMeta.__new__" "mcls name bases namespace **kwargs")),
      ("register", .function (documented "ABCMeta.register" "cls subclass")),
      ("__instancecheck__", .function (documented "ABCMeta.__instancecheck__" "cls instance")),
      ("__subclasscheck__", .function (documented "ABCMeta.__subclasscheck__" "cls subclass")),
      ("_dump_registry", .function (documented "ABCMeta._dump_registry" "cls file=")),
      ("_abc_registry_clear", .function (documented "ABCMeta._abc_registry_clear" "cls")),
      ("_abc_caches_clear", .function (documented "ABCMeta._abc_caches_clear" "cls"))] },
  { name := "_abc._abc_data"
    fixed := words "__new__"
    objects := words "__doc__:str __module__:str" },
  { name := "abc.ABC"
    objects := words
      ("__doc__:str __slots__:tuple __abstractmethods__:frozenset _abc_impl:_abc._abc_data") },
  { name := "typing._ProtocolMeta"
    behind := ["abc.ABCMeta", "builtins.type"]
    objects := words "__doc__:NoneType"
    functions := [("__instancecheck__",
      .function (closure "_ProtocolMeta.__instancecheck__" "cls instance"))] },
  { name := "typing.Protocol"
    behind := ["typing.Generic"]
    objects := words
      ("__doc__:str __slots__:tuple __parameters__:tuple __abstractmethods__:frozenset " ++
      "_abc_impl:_abc._abc_data")
    values := [("_is_protocol", .bool true), ("_is_runtime_protocol", .bool false)]
    functions := [
      ("__init_subclass__",
        .classBound (closure "Protocol.__init_subclass__" "cls *args **kwargs"))] },
  { name := "typing.Generic"
    objects := words "__doc__:str __slots__:tuple"
    values := [("_is_protocol", .bool false)]
    functions := [
      ("__class_getitem__", .classBound parametersFunction),
      ("__init_subclass__",
        .classBound (closure "Generic.__init_subclass__" "cls *args **kwargs"))] },
  { name := "dataclasses._DataclassParams"
    fields := words "eq:bool frozen:bool init:bool order:bool repr:bool unsafe_hash:bool"
    objects := words "__doc__:NoneType __module__:str __slots__:tuple"
    undocumented := words "eq frozen init order repr unsafe_hash"
    functions := [
      ("__init__", .function traitsInitialiser),
      ("__repr__", .function (method "_DataclassParams.__repr__" "self"))] },
  { name := "actorgen.metadata.models._NoDefault"
    readings := words "__dict__:dict __weakref__:NoneType"
    objects := words "__doc__:str __module__:str"
    functions := [
      ("__repr__", .function (method "_NoDefault.__repr__" "self"))] },
  { name := "actorgen.metadata.models.ConstantRef"
    readings := words "__dict__:dict __weakref__:NoneType"
    objects := words
      ("__annotations__:dict __doc__:str __module__:str __dataclass_fields__:dict " ++
      "__dataclass_params__:dataclasses._DataclassParams __match_args__:tuple")
    functions := [
      ("__init__", .function (closure "ConstantRef.__init__" "self name")),
      ("__repr__", .function constantShower),
      ("__eq__", .function (method "ConstantRef.__eq__" "self other")),
      ("__setattr__", .function (closure "ConstantRef.__setattr__" "self name value")),
      ("__delattr__", .function (closure "ConstantRef.__delattr__" "self name")),
      ("__hash__", .function (method "ConstantRef.__hash__" "self"))] }]

/-- The standard type of a name. -/
def find? (name : Text) : Option StandardType := all.find? (·.name == name)

end StandardType

end ActorFacade
