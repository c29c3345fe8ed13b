import SpacewalkAcquire.Xml.Escape

/-!
# XML-RPC calls

`XmlRpc.call` is the document that calls a method with texts as parameters.
-/

namespace SpacewalkAcquire.XmlRpc

def parameter (text : String) : String :=
  "<param>\n<value><string>" ++ Xml.escape text ++ "</string></value>\n</param>\n"

def call (method : String) (parameters : List String) : String :=
  "<?xml version='1.0'?>\n<methodCall>\n<methodName>" ++ Xml.escape method ++ "</methodName>\n<params>\n" ++
    String.join (parameters.map parameter) ++ "</params>\n</methodCall>\n"

end SpacewalkAcquire.XmlRpc
