import CtCert.Strict
import CtCert.ExtensionMap
import CtCert.Validity
import CtCert.Reader
import CtCert.Encoding
